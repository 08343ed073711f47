import ConfigExchange.Proofs.Cluster.Exchange
import ConfigExchange.Proofs.Cluster.Traffic

/-! Any number of exchanges at a time, on any connections of any sites, among writers, closers and
loans that are used by hand. What an exchange does it does to its own writer, so all others stay as
they are, and the writers it had before are over. -/
namespace ConfigExchange

open Cluster

/-- Whether a writer that has come this far is done. -/
def WriterStage.isOver : WriterStage → Bool
  | finished _ | dropped => true
  | _ => false

/-- What one may set out to do on a connection. -/
inductive Task where
  | send (sender : Sender) (message : Encodable)
  | request (inlet : Inlet) (processor : UInt32) (groups : NameSet)
  | answer (frame : Bytes)
  | serve (inlet : Inlet)

/-- A task of which nothing was done yet. -/
def Task.exchange (index : Nat) : Task → Exchange
  | send sender message => .sending (.starting { sender with connection := index } message)
  | request inlet processor groups => .requesting (.start index inlet processor groups)
  | answer frame => .answering (.starting index frame)
  | serve inlet => .serving { connection := index, inlet }

/-- An exchange on a connection, and the writers it has opened, the last in front. -/
structure Affair where
  connection : Nat
  exchange : Exchange
  writers : List SessionId := []

/-- One step of an exchange, which keeps in mind the writer it opens. -/
def Affair.step (cluster : Cluster) (affair : Affair) : Option (Affair × Cluster) :=
  (affair.exchange.step cluster).map fun after =>
    let writers := affair.exchange.opens cluster ++ affair.writers
    ({ affair with exchange := after.1, writers }, after.2)

theorem Affair.step_eq_some {cluster later : Cluster} {affair next : Affair}
    (hStep : affair.step cluster = some (next, later)) :
    ∃ exchange, affair.exchange.step cluster = some (exchange, later) ∧
      next = ⟨affair.connection, exchange, affair.exchange.opens cluster ++ affair.writers⟩ := by
  obtain ⟨after, hAfter, hNext⟩ := Option.map_eq_some_iff.1 hStep
  cases hNext
  exact ⟨after.1, hAfter, rfl⟩

/-- All that was done in a cluster, and the exchanges that are going on or are over. -/
abbrev Affairs := Parties Deed Affair

namespace Affairs

/-- An exchange begins on a connection that is there, goes on or is given up, or something else is
done. -/
abbrev Move := Parties.Move Deed (Nat × Task)

/-- What exchanges do. -/
def conduct : Conduct Deed (Nat × Task) Affair where
  perform := Cluster.enact
  subject? := Deed.subject?
  enter? := fun cluster task =>
    if (Event.openWriter task.1).isUse cluster then
      some { connection := task.1, exchange := task.2.exchange task.1 }
    else none
  step := fun cluster affair => affair.step cluster
  acts := fun cluster affair => affair.exchange.deeds cluster
  drop := fun cluster affair => affair.exchange.drop cluster
  dropActs := fun affair => affair.exchange.dropDeeds
  writers := Affair.writers

def move (start : Cluster) (affairs : Affairs) (move : Move) : Affairs :=
  conduct.move start affairs move

def run (start : Cluster) (affairs : Affairs) (moves : List Move) : Affairs :=
  conduct.run start affairs moves

end Affairs

/-! ### What a deed leaves as it is -/

namespace Cluster

variable {cluster later : Cluster} {index : Nat} {id : SessionId} {connection : Connection}
  {stage : WriterStage}

/-- A deed is an event at most, and of the same session. -/
theorem enact_cases (cluster : Cluster) (deed : Deed) :
    cluster.enact deed = cluster ∨
      ∃ event, event.subject? = deed.subject? ∧ cluster.enact deed = cluster.perform event := by
  cases deed with
  | use event =>
      by_cases hUse : event.isUse cluster = true
      · exact .inr ⟨event, rfl, Transmission.enactAll_use hUse⟩
      · exact .inl (by simp [enact, Deed.events, hUse, run])
  | tell | ask | around => exact .inr ⟨.elsewhere _ _ _ _ _, rfl, rfl⟩

/-- Every deed is a turn on a connection. -/
theorem turn_enact (hConnection : cluster.connections[index]? = some connection) (deed : Deed) :
    ∃ next, (cluster.enact deed).connections[index]? = some next ∧
      Turn index cluster (cluster.enact deed) connection deed.subject? next := by
  rcases enact_cases cluster deed with hSame | ⟨event, hSubject, hEvent⟩
  · rw [hSame]
    exact ⟨connection, hConnection, .still rfl rfl⟩
  · rw [hEvent, ← hSubject]
    exact turn_perform hConnection event

theorem siteOf?_enact {session : Session} {site : Nat} (hHome : cluster.siteOf? session = some site)
    (deed : Deed) : (cluster.enact deed).siteOf? session = some site := by
  rcases enact_cases cluster deed with hSame | ⟨event, -, hEvent⟩
  · rw [hSame]
    exact hHome
  · rw [hEvent]
    exact siteOf?_perform event hHome

theorem siteOf?_enactAll {session : Session} {site : Nat}
    (hHome : cluster.siteOf? session = some site) (deeds : List Deed) :
    (cluster.enactAll deeds).siteOf? session = some site := by
  induction deeds generalizing cluster with
  | nil => exact hHome
  | cons deed rest ih => exact ih (siteOf?_enact hHome deed)

/-- Whoever can open a writer can do so later. -/
theorem isUse_enact (hPlaced : cluster.Placed)
    (hIndex : (Event.openWriter index).isUse cluster = true) (deed : Deed) :
    (Event.openWriter index).isUse (cluster.enact deed) = true := by
  obtain ⟨found, hBind⟩ := Option.isSome_iff_exists.1 hIndex
  obtain ⟨site, hHome, hFound⟩ := Option.bind_eq_some_iff.1 hBind
  obtain ⟨pool, cache, hNext, -⟩ := poolTurn_enact hPlaced hFound deed
  refine Option.isSome_iff_exists.2 ⟨_, Option.bind_eq_some_iff.2 ⟨site, ?_, hNext⟩⟩
  exact siteOf?_enact hHome deed

theorem isUse_enactAll (hPlaced : cluster.Placed)
    (hIndex : (Event.openWriter index).isUse cluster = true) (deeds : List Deed) :
    (Event.openWriter index).isUse (cluster.enactAll deeds) = true := by
  induction deeds generalizing cluster with
  | nil => exact hIndex
  | cons deed rest ih => exact ih (hPlaced.enact deed) (isUse_enact hPlaced hIndex deed)

/-- Whoever writes goes on to be one who writes. -/
theorem stage?_persists (hConnection : cluster.connections[index]? = some connection)
    (hStage : cluster.stage? index id = some stage) (deeds : List Deed) :
    ∃ last, (cluster.enactAll deeds).stage? index id = some last := by
  induction deeds generalizing cluster connection stage with
  | nil => exact ⟨stage, hStage⟩
  | cons deed rest ih =>
      obtain ⟨next, hNext, hTurn⟩ := turn_enact hConnection deed
      obtain ⟨last, hLast, -⟩ := hTurn.stage_after hStage
      exact ih hNext hLast

/-- What others do leaves a writer where it is. -/
theorem stage?_enactAll_of_ne (hConnection : cluster.connections[index]? = some connection)
    (hStage : cluster.stage? index id = some stage) {deeds : List Deed}
    (hOthers : ∀ deed ∈ deeds, deed.subject? ≠ some id) :
    (cluster.enactAll deeds).stage? index id = some stage := by
  induction deeds generalizing cluster connection with
  | nil => exact hStage
  | cons deed rest ih =>
      obtain ⟨next, hNext, hTurn⟩ := turn_enact hConnection deed
      obtain ⟨last, hLast, rfl | ⟨hSubject, -⟩⟩ := hTurn.stage_after hStage
      · exact ih hNext hLast fun other hOther => hOthers other (List.mem_cons_of_mem _ hOther)
      · exact absurd hSubject (hOthers deed List.mem_cons_self)

end Cluster

/-! ### The writers of one exchange -/

namespace Transmission

variable {cluster later : Cluster} {index : Nat} {writer : SessionId} {connection : Connection}
  {stage : WriterStage} {transmission after : Transmission}

/-- A transmission has no writer but the one it has opened. -/
theorem writer_of_step (hStep : transmission.step cluster = some (after, later))
    (hAfter : after.writer? = some writer) (hBegun : ∀ place message,
      transmission ≠ .starting place message) : transmission.writer? = some writer := by
  cases transmission with
  | starting place message => exact absurd rfl (hBegun place message)
  | acquiring other message =>
      simp only [step] at hStep
      split at hStep
      · split at hStep <;> cases hStep
        · exact hAfter
        · cases hAfter
      · cases hStep
        cases hAfter
      · obtain ⟨_, -, hNext⟩ := Option.map_eq_some_iff.1 hStep
        cases hNext
        exact hAfter
  | flushing other =>
      simp only [step] at hStep
      split at hStep
      · cases hStep
        cases hAfter
      · obtain ⟨_, -, hNext⟩ := Option.map_eq_some_iff.1 hStep
        cases hNext
        exact hAfter
  | finished => cases hStep

/-- A transmission keeps its writer until that is over. -/
theorem writer_step (hWriter : transmission.writer? = some writer)
    (hStage : cluster.stage? index writer = some stage) (hOn : transmission.IsOn index)
    (hIndex : (Event.openWriter index).isUse cluster = true)
    (hStep : transmission.step cluster = some (after, later)) :
    ∃ last, later.stage? index writer = some last ∧
      (last.isOver = true ∨ after.writer? = some writer) := by
  obtain ⟨connection, hConnection⟩ := connection_of_isUse hIndex
  have hLater := enactAll_events hOn hIndex
  rw [hStep, Option.map_some, Option.getD_some] at hLater
  obtain ⟨last, hLast⟩ := stage?_persists hConnection hStage ((transmission.events cluster).map .use)
  rw [hLater] at hLast
  have hNothing (hEvents : transmission.events cluster = []) : last = stage := by
    rw [hEvents] at hLater
    cases hLater
    exact Option.some_inj.1 (hLast.symm.trans hStage)
  refine ⟨last, hLast, ?_⟩
  cases transmission with
  | acquiring other message =>
      cases hWriter
      rcases acquiring_cases hStage hStep with ⟨rfl, -⟩ | ⟨error, pieces, rfl, -, hEvents⟩ |
        ⟨error, rfl, rfl, hEvents⟩ | ⟨-, rfl, -⟩
      · exact .inr rfl
      · -- What could not be encoded is given up.
        rw [hEvents] at hLater
        obtain ⟨filled, hFilled⟩ := stage?_persists hConnection hStage
          [.use (.append writer pieces)]
        have hDropped : later.stage? index writer = some .dropped := by
          have hDrop : later = (cluster.enact (.use (.append writer pieces))).drop writer :=
            hLater.symm
          rw [hDrop]
          exact stage?_drop hFilled
        cases hLast.symm.trans hDropped
        exact .inl rfl
      · rw [hNothing hEvents]
        exact .inl rfl
      · exact .inr rfl
  | flushing other =>
      cases hWriter
      rcases flushing_cases hStage hStep with ⟨result, rfl, rfl, hEvents⟩ | ⟨rfl, -⟩
      · rw [hNothing hEvents]
        exact .inl rfl
      · exact .inr rfl
  | starting | finished => cases hWriter

end Transmission

/-- A step opens one writer at most. -/
theorem Exchange.opens_cases (exchange : Exchange) (cluster : Cluster) :
    exchange.opens cluster = [] ∨ exchange.opens cluster = [cluster.sessions.length] := by
  unfold opens
  split
  · exact .inr rfl
  · exact .inl rfl

/-- The message that is being sent is on the same connection. -/
theorem Exchange.IsOn.transmission {exchange : Exchange} {index : Nat} {transmission : Transmission}
    (hOn : exchange.IsOn index) (hTransmission : exchange.transmission? = some transmission) :
    transmission.IsOn index := by
  have hDelivery {delivery : Delivery} (hOn : delivery.IsOn index)
      (hSending : delivery.transmission? = some transmission) : transmission.IsOn index := by
    cases delivery with
    | sending sender found =>
        cases hSending
        exact hOn
    | starting | finished => cases hSending
  cases exchange with
  | sending delivery => exact hDelivery hOn hTransmission
  | requesting request =>
      obtain ⟨place, inlet, processor, stage⟩ := request
      cases stage with
      | sending found =>
          cases hTransmission
          exact hOn.2
      | reading | finished => cases hTransmission
  | answering answer =>
      cases answer with
      | replying delivery => exact hDelivery hOn hTransmission
      | starting | finished => cases hTransmission
  | serving server =>
      obtain ⟨place, inlet, stage⟩ := server
      cases stage with
      | replying delivery => exact hDelivery hOn.2 hTransmission
      | reading | finished => cases hTransmission

namespace Affair

variable {cluster later : Cluster} {affair : Affair} {next : Exchange} {id : SessionId}
  {deeds : List Deed}

/-- What holds of an exchange all the time. Its writers are over, but for the one whose message is
being sent. -/
structure Sound (cluster : Cluster) (affair : Affair) : Prop where
  home : (Event.openWriter affair.connection).isUse cluster = true
  on : affair.exchange.IsOn affair.connection
  last : ∀ id, affair.exchange.writer? = some id → affair.writers.head? = some id
  writers : ∀ id ∈ affair.writers, ∃ stage, cluster.stage? affair.connection id = some stage ∧
    (stage.isOver = true ∨ affair.exchange.writer? = some id)

namespace Sound

theorem begin {index : Nat} (hIndex : (Event.openWriter index).isUse cluster = true)
    (task : Task) : Sound cluster { connection := index, exchange := task.exchange index } := by
  have hNone : (task.exchange index).writer? = none := by cases task <;> rfl
  refine ⟨hIndex, ?_, fun id hId => ?_, nofun⟩
  · cases task with
    | send | answer => rfl
    | request => exact ⟨rfl, rfl⟩
    | serve => exact ⟨rfl, trivial⟩
  · cases hNone.symm.trans hId

/-- The writer of the message that is being sent is among its writers. -/
theorem mem_writers (hSound : Sound cluster affair) (hWriter : affair.exchange.writer? = some id) :
    id ∈ affair.writers :=
  List.mem_of_head? (hSound.last id hWriter)

/-- What others do leaves an exchange as it is. -/
theorem others (hSound : Sound cluster affair) (hPlaced : cluster.Placed)
    (hOthers : ∀ deed ∈ deeds, ∀ id ∈ affair.writers, deed.subject? ≠ some id) :
    Sound (cluster.enactAll deeds) affair := by
  obtain ⟨connection, hConnection⟩ := Transmission.connection_of_isUse hSound.home
  refine ⟨isUse_enactAll hPlaced hSound.home deeds, hSound.on, hSound.last, fun id hId => ?_⟩
  obtain ⟨stage, hStage, hOver⟩ := hSound.writers id hId
  exact ⟨stage, stage?_enactAll_of_ne hConnection hStage fun deed hDeed => hOthers deed hDeed id hId,
    hOver⟩

/-- An exchange that goes on does its deeds. -/
theorem enactAll_deeds (hSound : Sound cluster affair)
    (hStep : affair.exchange.step cluster = some (next, later)) :
    cluster.enactAll (affair.exchange.deeds cluster) = later := by
  rw [Exchange.enactAll_deeds hSound.on hSound.home, hStep]
  rfl

/-- All writers but the one of the message stay where they are. -/
theorem still (hSound : Sound cluster affair)
    (hStep : affair.exchange.step cluster = some (next, later)) (hId : id ∈ affair.writers)
    (hNot : affair.exchange.writer? ≠ some id) :
    ∃ stage, later.stage? affair.connection id = some stage ∧ stage.isOver = true := by
  obtain ⟨connection, hConnection⟩ := Transmission.connection_of_isUse hSound.home
  obtain ⟨stage, hStage, hOver⟩ := hSound.writers id hId
  refine ⟨stage, ?_, hOver.resolve_right hNot⟩
  rw [← hSound.enactAll_deeds hStep]
  exact stage?_enactAll_of_ne hConnection hStage fun deed hDeed hSubject =>
    hNot (Exchange.subject_deeds hDeed hSubject)

/-- The writer of the message is over, or still the writer of the message. -/
theorem writers_go (hSound : Sound cluster affair) {transmission after : Transmission}
    (hBefore : affair.exchange.transmission? = some transmission)
    (hStep : affair.exchange.step cluster = some (next, later))
    (hThen : transmission.step cluster = some (after, later))
    (hAfter : next.transmission? = some after) (hId : id ∈ affair.writers) :
    ∃ stage, later.stage? affair.connection id = some stage ∧
      (stage.isOver = true ∨ next.writer? = some id) := by
  by_cases hOwn : affair.exchange.writer? = some id
  · obtain ⟨stage, hStage, -⟩ := hSound.writers id hId
    obtain ⟨last, hLast, hOver⟩ := Transmission.writer_step
      ((Exchange.writer?_of_transmission? hBefore).symm.trans hOwn) hStage
      (hSound.on.transmission hBefore) hSound.home hThen
    exact ⟨last, hLast, hOver.imp_right (Exchange.writer?_of_transmission? hAfter).trans⟩
  · obtain ⟨stage, hStage, hOver⟩ := hSound.still hStep hId hOwn
    exact ⟨stage, hStage, .inl hOver⟩

/-- An exchange that goes on keeps its writer, or is done with it. -/
theorem go (hSound : Sound cluster affair) (hPlaced : cluster.Placed)
    (hStep : affair.exchange.step cluster = some (next, later)) :
    Sound later { affair with
      exchange := next, writers := affair.exchange.opens cluster ++ affair.writers } := by
  obtain ⟨hCourse, hKeeps⟩ := Exchange.turn_step hStep
  have hHome := hSound.enactAll_deeds hStep ▸
    isUse_enactAll hPlaced hSound.home (affair.exchange.deeds cluster)
  cases hCourse with
  | rests hBefore hDeeds hOpens hAfter =>
      refine ⟨hHome, hKeeps _ hSound.on, fun id hId => ?_, fun id hId => ?_⟩
      · cases hAfter.symm.trans hId
      · simp only [hOpens, List.nil_append] at hId
        obtain ⟨stage, hStage, hOver⟩ := hSound.still hStep hId (by simp [hBefore])
        exact ⟨stage, hStage, .inl hOver⟩
  | @sends transmission after hBefore hThen hAfter =>
      have hWriter := Exchange.writer?_of_transmission? hBefore
      have hNext := Exchange.writer?_of_transmission? hAfter
      cases transmission with
      | starting place message =>
          have hPlace : place = affair.connection := hSound.on.transmission hBefore
          have hOpens : affair.exchange.opens cluster = [cluster.sessions.length] := by
            rw [Exchange.opens, hBefore]
          obtain ⟨rfl, rfl⟩ : after = .acquiring cluster.sessions.length message ∧
              later = (cluster.openWriter place).2 := by
            cases hThen
            exact ⟨rfl, rfl⟩
          subst hPlace
          refine ⟨hHome, hKeeps _ hSound.on, fun id hId => ?_, fun id hId => ?_⟩
          · cases hNext.symm.trans hId
            rw [hOpens]
            rfl
          · rw [hOpens, List.singleton_append, List.mem_cons] at hId
            rcases hId with rfl | hOld
            · refine ⟨.starting, ?_, .inr hNext⟩
              rw [stage?_eq_some]
              exact List.getElem?_concat_length ..
            · exact hSound.writers_go hBefore hStep hThen hAfter hOld
      | acquiring | flushing | finished =>
          have hOpens : affair.exchange.opens cluster = [] := by
            rw [Exchange.opens, hBefore]
          refine ⟨hHome, hKeeps _ hSound.on, fun id hId => ?_, fun id hId => ?_⟩
          · rw [hOpens, List.nil_append]
            exact hSound.last id (hWriter.trans
              (Transmission.writer_of_step hThen (hNext.symm.trans hId) (by simp)))
          · rw [hOpens, List.nil_append] at hId
            exact hSound.writers_go hBefore hStep hThen hAfter hId

end Sound

end Affair

/-! ### All exchanges -/

namespace Affairs

variable {start : Cluster} {affairs : Affairs}

/-- What holds of an exchange is kept by what others do, and by its own steps. -/
theorem keeps_sound (hPlaced : start.Placed) :
    conduct.Keeps start fun history affair => affair.Sound (start.enactAll history) where
  enters := by
    intro history task affair hEnter
    obtain ⟨hIndex, hAffair⟩ := Option.ite_none_right_eq_some.1 hEnter
    cases hAffair
    exact ⟨.begin hIndex task.2, rfl⟩
  goes := by
    intro history affair next later hSound hStep
    obtain ⟨exchange, hExchange, rfl⟩ := Affair.step_eq_some hStep
    show Affair.Sound (start.enactAll (history ++ affair.exchange.deeds (start.enactAll history))) _
    rw [enactAll_append, hSound.enactAll_deeds hExchange]
    exact hSound.go (hPlaced.enactAll history) hExchange
  others := by
    intro history affair deed hSound hOthers
    rw [enactAll_append]
    refine hSound.others (hPlaced.enactAll history) fun last hLast => ?_
    cases List.mem_singleton.1 hLast
    exact hOthers
  owner := by
    intro history affair deed id hSound hDeed hSubject
    refine hSound.mem_writers ?_
    rcases hDeed with hDeed | hDeed
    · exact Exchange.subject_deeds hDeed hSubject
    · exact Exchange.subject_dropDeeds hDeed hSubject
  opens := by
    intro history affair next later hSound hStep
    obtain ⟨exchange, -, rfl⟩ := Affair.step_eq_some hStep
    show _ ++ affair.writers = affair.writers ∨ _ ++ affair.writers = _ :: affair.writers
    rcases affair.exchange.opens_cases (start.enactAll history) with hNone | hOpens
    · exact .inl (congrArg (· ++ affair.writers) hNone)
    · exact .inr (congrArg (· ++ affair.writers) hOpens)
  present := by
    intro history affair id hSound hId
    obtain ⟨stage, hStage, -⟩ := hSound.writers id hId
    exact (List.getElem?_eq_some_iff.1 (stage?_eq_some.1 hStage)).1
  enacts := by
    intro history affair next later hSound hStep
    obtain ⟨exchange, hExchange, -⟩ := Affair.step_eq_some hStep
    exact hSound.enactAll_deeds hExchange
  ends := fun _ _ => Exchange.enactAll_dropDeeds ..

/-- What holds of all exchanges all the time. -/
abbrev Sound (start : Cluster) (affairs : Affairs) : Prop :=
  conduct.Sound (fun history affair => affair.Sound (start.enactAll history)) affairs

end Affairs

end ConfigExchange
