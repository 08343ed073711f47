import ConfigExchange.Proofs.Cluster.Sends

/-! A sender of one reply, along a run of its sends. While it has not sent its reply, every writer
that an earlier send obtained has failed; so a second whole frame can only follow one whose send
failed after all of it was accepted. -/
namespace ConfigExchange

open Cluster

/-- A writer that ended without success. -/
def Ended (stages : SessionId → Option WriterStage) (id : SessionId) : Prop :=
  ∃ stage, stages id = some stage ∧ stage.Failed

/-- A writer that waits for the lock or for a buffer does not begin to send. -/
theorem WriterTurn.waits {id : SessionId} {connection next : Connection}
    {stage last : WriterStage} (hTurn : WriterTurn id connection stage next last)
    (hStage : stage.hasBegun = false) (hWaits : ∀ buffer, stage ≠ .opened buffer) :
    last.hasBegun = false ∨ last.Failed := by
  cases hTurn with
  | leaves _ hLast | quits _ hLast => exact .inr hLast.failed
  | queues | asks | gets => exact .inl rfl
  | fills buffer | flushes buffer => exact absurd rfl (hWaits buffer)
  | sends | completes | breaks => cases hStage

namespace Watch

variable {index : Nat} {watch : Watch} {connection : Connection} {socket : Socket}

/-- A writer stays one, and goes on only in an event of its own. -/
theorem Sound.stage?_perform (hSound : Sound index watch connection socket) (event : Event)
    {id : SessionId} {stage : WriterStage} (hStage : watch.cluster.stage? index id = some stage) :
    ∃ last, (watch.perform index event).cluster.stage? index id = some last ∧
      (last = stage ∨ event.subject? = some id ∧
        ∃ next, WriterTurn id connection stage next last) := by
  obtain ⟨next, -, hTurn⟩ := Cluster.turn_perform hSound.present event
  obtain ⟨last, hLast, hWriter⟩ := hTurn.stage_after hStage
  exact ⟨last, hLast, hWriter.imp_right fun hOwn => ⟨hOwn.1, next, hOwn.2⟩⟩

theorem Sound.ended_perform (hSound : Sound index watch connection socket) (event : Event)
    {id : SessionId} (hEnded : Ended (watch.cluster.stage? index) id) :
    Ended ((watch.perform index event).cluster.stage? index) id := by
  obtain ⟨stage, hStage, hFailed⟩ := hEnded
  obtain ⟨last, hLast, rfl | ⟨-, next, hTurn⟩⟩ := hSound.stage?_perform event hStage
  · exact ⟨last, hLast, hFailed⟩
  · exact ⟨last, hLast, hTurn.failed hFailed⟩

end Watch

/-! ### The writers of one sender -/

/-- Some writers take turns: one sends its frame only after those before it have failed. -/
structure Orderly (index : Nat) (watch : Watch) (writers : List SessionId) : Prop where
  sound : ∃ connection socket, Watch.Sound index watch connection socket
  present : ∀ id ∈ writers, ∃ stage, watch.cluster.stage? index id = some stage
  single : (watch.log.map (·.writer)).Pairwise fun earlier later =>
    earlier ∈ writers → later ∈ writers → Ended (watch.cluster.stage? index) earlier

namespace Orderly

variable {index : Nat} {watch : Watch} {writers : List SessionId} {id : SessionId}

theorem ended (hOrderly : Orderly index watch writers) (event : Event)
    (hEnded : Ended (watch.cluster.stage? index) id) :
    Ended ((watch.perform index event).cluster.stage? index) id := by
  obtain ⟨connection, socket, hSound⟩ := hOrderly.sound
  exact hSound.ended_perform event hEnded

/-- A writer that still fills its buffer has made no attempt. -/
theorem not_mem_of_opened (hOrderly : Orderly index watch writers) {buffer : Buffer}
    (hStage : watch.cluster.stage? index id = some (.opened buffer)) :
    id ∉ watch.log.map (·.writer) := by
  obtain ⟨connection, socket, hSound⟩ := hOrderly.sound
  apply hSound.ledger.not_mem
  intro stage hFound
  cases hStage.symm.trans hFound
  rfl

/-- An event of one of the writers is in order if all others have failed; an event of nobody among
them always is. -/
theorem perform (hOrderly : Orderly index watch writers) (event : Event)
    (hOthers : ∀ id ∈ writers, event.subject? = some id →
      ∀ other ∈ writers, other ≠ id → Ended (watch.cluster.stage? index) other) :
    Orderly index (watch.perform index event) writers := by
  obtain ⟨connection, socket, hSound⟩ := hOrderly.sound
  refine ⟨hSound.perform event, ?_, ?_⟩
  · intro id hId
    obtain ⟨stage, hStage⟩ := hOrderly.present id hId
    obtain ⟨last, hLast, -⟩ := hSound.stage?_perform event hStage
    exact ⟨last, hLast⟩
  · have hSingle := hOrderly.single.imp fun hEnded hEarlier hLater =>
      hSound.ended_perform event (hEnded hEarlier hLater)
    rcases Watch.writers_perform index watch event with
      hLog | ⟨id, buffer, _, _, hSubject, hStage, -, hLog⟩
    · rw [hLog]
      exact hSingle
    · rw [hLog, List.pairwise_append]
      refine ⟨hSingle, List.pairwise_singleton _ _, ?_⟩
      intro earlier hLogged later hLater hEarlier hOwn
      cases List.mem_singleton.1 hLater
      have hNe : earlier ≠ id := by
        rintro rfl
        exact hOrderly.not_mem_of_opened hStage hLogged
      exact hSound.ended_perform event (hOthers id hOwn hSubject earlier hEarlier hNe)

/-- A run of events of one writer is in order if all others have failed. -/
theorem run (hOrderly : Orderly index watch writers)
    (hOthers : ∀ other ∈ writers, other ≠ id → Ended (watch.cluster.stage? index) other)
    (events : List Event) (hEvents : ∀ event ∈ events, event.subject? = some id) :
    Orderly index (watch.run index events) writers ∧ ∀ other ∈ writers, other ≠ id →
      Ended ((watch.run index events).cluster.stage? index) other := by
  induction events generalizing watch with
  | nil => exact ⟨hOrderly, hOthers⟩
  | cons first rest ih =>
      have hFirst := hEvents first List.mem_cons_self
      refine ih (hOrderly.perform first fun found _ hFound => ?_) (fun other hOther hNe => ?_)
        fun event hEvent => hEvents event (List.mem_cons_of_mem _ hEvent)
      · cases hFirst.symm.trans hFound
        exact hOthers
      · exact hOrderly.ended first (hOthers other hOther hNe)

/-- A new writer may join. -/
theorem openWriter (hOrderly : Orderly index watch writers) :
    Orderly index (watch.perform index (.openWriter index))
        (watch.cluster.sessions.length :: writers) ∧
      (watch.perform index (.openWriter index)).cluster.stage? index watch.cluster.sessions.length =
        some .starting := by
  have hSessions : (watch.perform index (.openWriter index)).cluster.sessions =
    watch.cluster.sessions ++ [.writer index .starting] := rfl
  obtain ⟨hNone, hStages⟩ := stage?_append index hSessions
  have hNew : (watch.perform index (.openWriter index)).cluster.stage? index
      watch.cluster.sessions.length = some .starting := by
    rw [hStages, Function.update_self]
    exact if_pos rfl
  have hNext := hOrderly.perform (.openWriter index) nofun
  obtain ⟨connection, socket, hSound⟩ := hOrderly.sound
  have hAbsent : watch.cluster.sessions.length ∉ watch.log.map (·.writer) := by
    apply hSound.ledger.not_mem
    intro stage hFound
    cases hNone.symm.trans hFound
  refine ⟨⟨hNext.sound, ?_, ?_⟩, hNew⟩
  · intro id hId
    rcases List.mem_cons.1 hId with rfl | hOld
    · exact ⟨_, hNew⟩
    · exact hNext.present id hOld
  · have hOwn : ∀ id ∈ watch.log.map (·.writer),
        id ∈ watch.cluster.sessions.length :: writers → id ∈ writers := by
      intro id hLogged hId
      rcases List.mem_cons.1 hId with rfl | hOld
      · exact absurd hLogged hAbsent
      · exact hOld
    exact hNext.single.imp_of_mem fun hEarlier hLater hEnded hFirst hSecond =>
      hEnded (hOwn _ hEarlier hFirst) (hOwn _ hLater hSecond)

end Orderly

/-! ### The sends of one sender -/

/-- A sender stays on its connection. -/
theorem Sender.connection_conclude (sender : Sender) (result : Except SendError Unit) :
    (sender.conclude result).2.connection = sender.connection := by
  unfold conclude
  split
  · rfl
  · rfl
  · dsimp only
    split <;> split <;> rfl

namespace Delivery

/-- What is known of the sender. -/
def sender : Delivery → Sender
  | starting sender _ | sending sender _ | finished sender _ => sender

/-- The attempt, if it is not over. -/
def ongoing? : Delivery → Option Delivery
  | finished .. => none
  | delivery => some delivery

/-- The writer that the next step opens. -/
def opens (cluster : Cluster) : Delivery → List SessionId
  | sending _ (.starting ..) => [cluster.sessions.length]
  | _ => []

/-- Whether an attempt may be given up now. Once its writer is done, nothing is waited for. -/
def mayEnd (cluster : Cluster) : Delivery → Bool
  | sending _ (.finished _) => false
  | sending _ (.flushing writer) =>
    match cluster.sessions[writer]? with
    | some (.writer _ (.finished _)) => false
    | _ => true
  | _ => true

end Delivery

/-- A sender on a watched connection, the attempt that is going on, and the writers it has opened so
far, the last one first. -/
structure Replying where
  watch : Watch
  sender : Sender
  current : Option Delivery := none
  writers : List SessionId := []

/-- What may come next: the sender is told to send when it is not sending, an attempt goes on or is
given up, or something else happens. -/
inductive Move where
  | send (message : Encodable)
  | go
  | abandon
  | other (event : Event)

namespace Replying

variable {index : Nat}

def move (index : Nat) (state : Replying) : Move → Replying
  | .send message =>
    match state.current with
    | none => { state with current := some (.starting state.sender message) }
    | some _ => state
  | .go =>
    match state.current with
    | none => state
    | some delivery =>
      match delivery.step state.watch.cluster with
      | none => state
      | some (next, _) =>
        { watch := state.watch.act index (.deliver delivery)
          sender := next.sender
          current := next.ongoing?
          writers := delivery.opens state.watch.cluster ++ state.writers }
  | .abandon =>
    match state.current with
    | none => state
    | some delivery =>
      if delivery.mayEnd state.watch.cluster then
        { state with watch := state.watch.act index (.abandon delivery), current := none }
      else state
  | .other event =>
    -- Nobody but the sender has its writers.
    if event.subject?.any (state.writers.contains ·) then state
    else { state with watch := state.watch.perform index event }

def run (index : Nat) (state : Replying) (moves : List Move) : Replying :=
  moves.foldl (move index) state

/-- A step of a watched attempt does to the cluster what it does when nobody watches. -/
theorem cluster_go {state : Replying} {delivery next : Delivery} {later : Cluster}
    (hCurrent : state.current = some delivery)
    (hStep : delivery.step state.watch.cluster = some (next, later)) :
    (state.move index .go).watch.cluster = later := by
  simp only [move, hCurrent, hStep]
  rw [Watch.cluster_deliver, hStep]
  rfl

/-- So does giving it up. -/
theorem cluster_move_abandon {state : Replying} {delivery : Delivery}
    (hCurrent : state.current = some delivery)
    (hEnd : delivery.mayEnd state.watch.cluster = true) :
    (state.move index .abandon).watch.cluster = delivery.drop state.watch.cluster := by
  simp only [move, hCurrent, hEnd, if_true]
  exact Watch.cluster_abandon state.watch delivery

/-- The attempts of the sender, in order. -/
def own (state : Replying) : List Attempt :=
  state.watch.log.filter fun attempt => state.writers.contains attempt.writer

/-- How far an attempt has come, and what that says of the writers. -/
inductive Phase (stages : SessionId → Option WriterStage) (sender : Sender)
    (writers : List SessionId) (index : Nat) : Option Delivery → Prop where
  | idle (hSpent : sender.isSent = true ∨ ∀ id ∈ writers, Ended stages id) :
      Phase stages sender writers index none
  | starting (message : Encodable)
      (hSpent : sender.isSent = true ∨ ∀ id ∈ writers, Ended stages id) :
      Phase stages sender writers index (some (.starting sender message))
  | opening (message : Encodable) (hEnded : ∀ id ∈ writers, Ended stages id) :
      Phase stages sender writers index (some (.sending sender (.starting index message)))
  | acquiring (writer : SessionId) (message : Encodable) (hWriter : writer ∈ writers)
      (hOthers : ∀ id ∈ writers, id ≠ writer → Ended stages id)
      (hQuiet : ∀ stage, stages writer = some stage → stage.hasBegun = false ∨ stage.Failed) :
      Phase stages sender writers index (some (.sending sender (.acquiring writer message)))
  | flushing (writer : SessionId) (hWriter : writer ∈ writers)
      (hOthers : ∀ id ∈ writers, id ≠ writer → Ended stages id) :
      Phase stages sender writers index (some (.sending sender (.flushing writer)))
  | finished (result : Except SendError Unit)
      (hResult : result = .ok () ∨ ∀ id ∈ writers, Ended stages id) :
      Phase stages sender writers index (some (.sending sender (.finished result)))

/-- What holds of a sender all the time. -/
structure Sound (index : Nat) (state : Replying) : Prop where
  connection : state.sender.connection = index
  orderly : Orderly index state.watch state.writers
  phase : Phase (state.watch.cluster.stage? index) state.sender state.writers index state.current

variable {watch : Watch} {sender : Sender} {writers : List SessionId} {writer : SessionId}
  {message : Encodable} {next : Transmission} {later : Cluster}

/-- Once the last writer has failed too, all have. -/
theorem all_ended {stages : SessionId → Option WriterStage} (hWriter : Ended stages writer)
    (hOthers : ∀ id ∈ writers, id ≠ writer → Ended stages id) :
    ∀ id ∈ writers, Ended stages id := by
  intro id hId
  by_cases hEq : id = writer
  · rw [hEq]
    exact hWriter
  · exact hOthers id hId hEq

/-- A writer that was given up has failed. -/
theorem ended_drop {stage : WriterStage} (hStage : watch.cluster.stage? index writer = some stage) :
    Ended ((watch.perform index (.drop writer)).cluster.stage? index) writer :=
  ⟨.dropped, stage?_drop hStage, .dropped⟩

/-- A step towards a filled buffer. The writer makes an attempt only when it goes on to flush. -/
theorem phase_acquiring (hOrderly : Orderly index watch writers) (hWriter : writer ∈ writers)
    (hOthers : ∀ id ∈ writers, id ≠ writer → Ended (watch.cluster.stage? index) id)
    (hQuiet : ∀ stage, watch.cluster.stage? index writer = some stage →
      stage.hasBegun = false ∨ stage.Failed)
    (hStep : (Transmission.acquiring writer message).step watch.cluster = some (next, later)) :
    let after := watch.run index ((Transmission.acquiring writer message).events watch.cluster)
    Orderly index after writers ∧ Phase (after.cluster.stage? index) sender writers index
      (some (.sending sender next)) := by
  intro after
  obtain ⟨stage, hStage⟩ := hOrderly.present writer hWriter
  obtain ⟨hNext, hOthers'⟩ := hOrderly.run hOthers _
    (Transmission.subject_acquiring watch.cluster writer message)
  refine ⟨hNext, ?_⟩
  obtain ⟨rfl, -⟩ | ⟨error, pieces, rfl, -, hEvents⟩ | ⟨error, rfl, rfl, hEvents⟩ |
    ⟨hWaits, rfl, hEvents⟩ := Transmission.acquiring_cases hStage hStep
  · exact .flushing writer hWriter hOthers'
  · -- What could not be encoded is dropped with its writer.
    refine .finished _ (.inr (all_ended ?_ hOthers'))
    show Ended ((watch.run index _).cluster.stage? index) writer
    rw [hEvents]
    have hAppended := hOrderly.perform (.append writer pieces) fun id _ hId => by
      cases hId
      exact hOthers
    obtain ⟨last, hLast⟩ := hAppended.present writer hWriter
    exact ended_drop hLast
  · refine .finished _ (.inr (all_ended ?_ hOthers'))
    show Ended ((watch.run index _).cluster.stage? index) writer
    rw [hEvents]
    exact ⟨_, hStage, .finished error⟩
  · refine .acquiring writer message hWriter hOthers' ?_
    show ∀ stage, (watch.run index _).cluster.stage? index writer = some stage → _
    rw [hEvents]
    intro found hFound
    obtain ⟨connection, socket, hSound⟩ := hOrderly.sound
    obtain ⟨last, hLast, hTurn⟩ := hSound.stage?_perform (.step writer) hStage
    cases hLast.symm.trans hFound
    rcases hTurn with rfl | ⟨-, next, hTurn⟩
    · exact hQuiet _ hStage
    · rcases hQuiet stage hStage with hBegun | hFailed
      · exact hTurn.waits hBegun hWaits
      · exact .inr (hTurn.failed hFailed)

/-- A step of the sending of a buffer. If it fails, so has its writer. -/
theorem phase_flushing (hOrderly : Orderly index watch writers) (hWriter : writer ∈ writers)
    (hOthers : ∀ id ∈ writers, id ≠ writer → Ended (watch.cluster.stage? index) id)
    (hStep : (Transmission.flushing writer).step watch.cluster = some (next, later)) :
    let after := watch.run index ((Transmission.flushing writer).events watch.cluster)
    Orderly index after writers ∧ Phase (after.cluster.stage? index) sender writers index
      (some (.sending sender next)) := by
  intro after
  obtain ⟨stage, hStage⟩ := hOrderly.present writer hWriter
  obtain ⟨hNext, hOthers'⟩ := hOrderly.run hOthers _
    (Transmission.subject_flushing watch.cluster writer)
  refine ⟨hNext, ?_⟩
  obtain ⟨result, rfl, rfl, hEvents⟩ | ⟨rfl, -⟩ := Transmission.flushing_cases hStage hStep
  · cases result with
    | ok => exact .finished _ (.inl rfl)
    | error error =>
        refine .finished _ (.inr (all_ended ?_ hOthers'))
        show Ended ((watch.run index _).cluster.stage? index) writer
        rw [hEvents]
        exact ⟨_, hStage, .finished error⟩
  · exact .flushing writer hWriter hOthers'

/-- A new writer, behind others that have all failed. -/
theorem phase_opening (hOrderly : Orderly index watch writers)
    (hEnded : ∀ id ∈ writers, Ended (watch.cluster.stage? index) id) :
    let after := watch.perform index (.openWriter index)
    let all := watch.cluster.sessions.length :: writers
    Orderly index after all ∧ Phase (after.cluster.stage? index) sender all index
      (some (.sending sender (.acquiring watch.cluster.sessions.length message))) := by
  obtain ⟨hNext, hStarting⟩ := hOrderly.openWriter
  refine ⟨hNext, .acquiring _ message List.mem_cons_self ?_ ?_⟩
  · intro id hId hNe
    exact hOrderly.ended _ (hEnded id ((List.mem_cons.1 hId).resolve_left hNe))
  · intro stage hStage
    cases hStarting.symm.trans hStage
    exact .inl rfl

variable {state : Replying}

/-- One step of an attempt leads from one phase to the next. -/
theorem sound_deliver {delivery next : Delivery} (hConnection : sender.connection = index)
    (hOrderly : Orderly index watch writers)
    (hPhase : Phase (watch.cluster.stage? index) sender writers index (some delivery))
    (hStep : delivery.step watch.cluster = some (next, later)) :
    Sound index ⟨watch.act index (.deliver delivery), next.sender, next.ongoing?,
      delivery.opens watch.cluster ++ writers⟩ := by
  cases hPhase with
  | starting message hSpent =>
      simp only [Delivery.step] at hStep
      split at hStep
      · cases hStep
        exact ⟨hConnection, hOrderly, .idle hSpent⟩
      · next hUnsent =>
        split at hStep
        · cases hStep
          exact ⟨hConnection, hOrderly, .idle hSpent⟩
        · cases hStep
          subst hConnection
          exact ⟨rfl, hOrderly, .opening message (hSpent.resolve_left hUnsent)⟩
  | opening message hEnded =>
      cases hStep
      obtain ⟨hNext, hPhase⟩ := phase_opening hOrderly hEnded
      exact ⟨hConnection, hNext, hPhase⟩
  | acquiring writer message hWriter hOthers hQuiet =>
      obtain ⟨⟨transmission, after⟩, hStep, hNext⟩ := Option.map_eq_some_iff.1 hStep
      cases hNext
      obtain ⟨hNext, hPhase⟩ := phase_acquiring hOrderly hWriter hOthers hQuiet hStep
      exact ⟨hConnection, hNext, hPhase⟩
  | flushing writer hWriter hOthers =>
      obtain ⟨⟨transmission, after⟩, hStep, hNext⟩ := Option.map_eq_some_iff.1 hStep
      cases hNext
      obtain ⟨hNext, hPhase⟩ := phase_flushing hOrderly hWriter hOthers hStep
      exact ⟨hConnection, hNext, hPhase⟩
  | finished result hResult =>
      cases hStep
      refine ⟨(sender.connection_conclude result).trans hConnection, hOrderly, .idle ?_⟩
      rcases hResult with rfl | hEnded
      · exact .inl rfl
      · exact .inr hEnded

/-- An attempt that is given up leaves no writer that has not failed. -/
theorem sound_abandon {delivery : Delivery} (hConnection : sender.connection = index)
    (hOrderly : Orderly index watch writers)
    (hPhase : Phase (watch.cluster.stage? index) sender writers index (some delivery))
    (hEnd : delivery.mayEnd watch.cluster = true) :
    Sound index ⟨watch.act index (.abandon delivery), sender, none, writers⟩ := by
  have hDrop : ∀ writer ∈ writers,
      (∀ id ∈ writers, id ≠ writer → Ended (watch.cluster.stage? index) id) →
      Sound index ⟨watch.run index [.drop writer], sender, none, writers⟩ := by
    intro writer hWriter hOthers
    obtain ⟨stage, hStage⟩ := hOrderly.present writer hWriter
    obtain ⟨hNext, hOthers'⟩ := hOrderly.run hOthers [.drop writer] (by simp [Event.subject?])
    exact ⟨hConnection, hNext, .idle (.inr (all_ended (ended_drop hStage) hOthers'))⟩
  cases hPhase with
  | starting message hSpent => exact ⟨hConnection, hOrderly, .idle hSpent⟩
  | opening message hEnded => exact ⟨hConnection, hOrderly, .idle (.inr hEnded)⟩
  | acquiring writer message hWriter hOthers hQuiet => exact hDrop writer hWriter hOthers
  | flushing writer hWriter hOthers => exact hDrop writer hWriter hOthers
  | finished result hResult => cases hEnd

/-- What others do concerns no writer of the sender. -/
theorem sound_other {current : Option Delivery}
    (hSound : Sound index ⟨watch, sender, current, writers⟩) (event : Event)
    (hSubject : ∀ id ∈ writers, event.subject? ≠ some id) :
    Sound index ⟨watch.perform index event, sender, current, writers⟩ := by
  obtain ⟨hConnection, hOrderly, hPhase⟩ := hSound
  have hEnded : ∀ {id}, Ended (watch.cluster.stage? index) id →
      Ended ((watch.perform index event).cluster.stage? index) id := hOrderly.ended event
  refine ⟨hConnection, hOrderly.perform event fun id hId hEq => absurd hEq (hSubject id hId), ?_⟩
  simp only at hPhase ⊢
  cases hPhase with
  | idle hSpent => exact .idle (hSpent.imp_right fun hAll id hId => hEnded (hAll id hId))
  | starting message hSpent =>
      exact .starting message (hSpent.imp_right fun hAll id hId => hEnded (hAll id hId))
  | opening message hAll => exact .opening message fun id hId => hEnded (hAll id hId)
  | acquiring writer message hWriter hOthers hQuiet =>
      refine .acquiring writer message hWriter (fun id hId hNe => hEnded (hOthers id hId hNe)) ?_
      intro found hFound
      obtain ⟨connection, socket, hWatched⟩ := hOrderly.sound
      obtain ⟨stage, hStage⟩ := hOrderly.present writer hWriter
      obtain ⟨last, hLast, rfl | ⟨hOwn, -⟩⟩ := hWatched.stage?_perform event hStage
      · cases hLast.symm.trans hFound
        exact hQuiet _ hStage
      · exact absurd hOwn (hSubject writer hWriter)
  | flushing writer hWriter hOthers =>
      exact .flushing writer hWriter fun id hId hNe => hEnded (hOthers id hId hNe)
  | finished result hResult =>
      exact .finished result (hResult.imp_right fun hAll id hId => hEnded (hAll id hId))

theorem Sound.move (hSound : Sound index state) (move : Move) :
    Sound index (state.move index move) := by
  obtain ⟨watch, sender, current, writers⟩ := state
  have hAll := hSound
  obtain ⟨hConnection, hOrderly, hPhase⟩ := hSound
  cases move with
  | send message =>
      cases current with
      | none =>
          refine ⟨hConnection, hOrderly, .starting message ?_⟩
          cases hPhase with
          | idle hSpent => exact hSpent
      | some delivery => exact hAll
  | go =>
      cases current with
      | none => exact hAll
      | some delivery =>
          simp only [Replying.move]
          split
          · exact hAll
          · next hStep => exact sound_deliver hConnection hOrderly hPhase hStep
  | abandon =>
      cases current with
      | none => exact hAll
      | some delivery =>
          simp only [Replying.move]
          split
          · next hEnd => exact sound_abandon hConnection hOrderly hPhase hEnd
          · exact hAll
  | other event =>
      simp only [Replying.move]
      split
      · exact hAll
      · next hSubject =>
        apply sound_other hAll event
        intro id hId hEq
        apply hSubject
        rw [hEq]
        simpa using hId

theorem Sound.run (hSound : Sound index state) (moves : List Move) :
    Sound index (state.run index moves) := by
  induction moves generalizing state with
  | nil => exact hSound
  | cons first rest ih => exact ih (hSound.move first)

/-- A sender that has not been used, on a connection that has not been used. -/
def start (index : Nat) (recipient : Member) (cluster : Cluster) : Replying where
  watch := ⟨cluster, []⟩
  sender := { connection := index, recipient }

theorem sound_start {cluster : Cluster} (hFresh : Watch.Fresh index cluster) (recipient : Member) :
    Sound index (start index recipient cluster) where
  connection := rfl
  orderly := ⟨hFresh.sound, nofun, .nil⟩
  phase := .idle (.inr nofun)

/-- The sender makes another attempt only after all its attempts before have failed. -/
theorem Sound.ended (hSound : Sound index state) :
    state.own.Pairwise fun earlier _ =>
      Ended (state.watch.cluster.stage? index) earlier.writer := by
  have hSingle := List.pairwise_map.1 hSound.orderly.single
  refine List.pairwise_filter.2 (hSingle.imp fun hEnded hEarlier hLater => ?_)
  exact hEnded (List.contains_iff_mem.1 hEarlier) (List.contains_iff_mem.1 hLater)

/-- However often a reply is sent, and whatever happens meanwhile, the socket has accepted what the
log says, and of the attempts of the sender all but the last have failed. So at most one of its
frames was accepted as a whole exactly if no attempt that failed after its whole frame was accepted
is followed by one whose whole frame was accepted; nothing in the sender prevents that. -/
theorem delivered_of_moves {cluster : Cluster} (hFresh : Watch.Fresh index cluster)
    (recipient : Member) (moves : List Move) :
    let state := (start index recipient cluster).run index moves
    let failed := fun attempt : Attempt =>
      Ended (state.watch.cluster.stage? index) attempt.writer
    state.watch.cluster.accepted index = state.watch.log.flatMap Attempt.bytes ∧
      (state.own.Pairwise fun earlier _ => failed earlier) ∧
      ((state.own.filter (·.Whole)).length ≤ 1 ↔
        state.own.Pairwise fun earlier later => earlier.Whole → failed earlier → ¬ later.Whole) := by
  intro state failed
  have hSound := (sound_start hFresh recipient).run moves
  obtain ⟨connection, socket, hWatched⟩ := hSound.orderly.sound
  refine ⟨?_, hSound.ended, ?_⟩
  · rw [Cluster.accepted_eq hWatched.present hWatched.outlet]
    exact hWatched.ledger.accepted
  · rw [length_filter_le_one_iff]
    constructor
    · intro hOne
      exact hOne.imp fun hPair hWhole _ => by simpa using hPair (by simpa using hWhole)
    · intro hOne
      exact (hSound.ended.and hOne).imp fun hPair hWhole => by
        simpa using hPair.2 (by simpa using hWhole) hPair.1

/-- All that a sender does to send its reply, in so many steps. -/
def sendOnce (message : Encodable) (steps : Nat) : List Move :=
  .send message :: List.replicate steps .go

/-- The member at the other end of the lone connection. -/
def peer : Member := ⟨.v4 (.replicate 4 127) 40405, 2⟩

/-- The stream breaks in the first frame, and the reply is delivered by a second attempt. -/
theorem delivered_after_torn_attempt :
    let cluster := Watch.lone { writes := [.accept 2, .fail .brokenPipe] }
    let message := (Message.reply 7 none).encoding
    let state := (start 0 peer cluster).run 0 (sendOnce message 10 ++ sendOnce message 12)
    Watch.Fresh 0 cluster ∧ state.own.map (·.sent) = [2, 12] ∧ state.sender.isSent = true ∧
      ((state.own.filter (·.Whole)).length ≤ 1 ↔ state.own.Pairwise fun earlier later =>
        earlier.Whole → Ended (state.watch.cluster.stage? 0) earlier.writer → ¬ later.Whole) := by
  have hFresh := Watch.fresh_lone { writes := [.accept 2, .fail .brokenPipe] }
  obtain ⟨-, -, hOne⟩ := delivered_of_moves hFresh peer
    (sendOnce (Message.reply 7 none).encoding 10 ++ sendOnce (Message.reply 7 none).encoding 12)
  exact ⟨hFresh, by decide +kernel, by decide +kernel, hOne⟩

/-- The whole reply is accepted and then the flush fails. The sender reports its recipient as
unreachable, and the next attempt delivers the reply once more. -/
theorem delivered_twice_after_failed_flush :
    let cluster := Watch.lone { flushes := [.fail .brokenPipe] }
    let message := (Message.reply 7 none).encoding
    let state := (start 0 peer cluster).run 0 (sendOnce message 12 ++ sendOnce message 12)
    Watch.Fresh 0 cluster ∧ (state.own.filter (·.Whole)).length = 2 ∧
      state.watch.cluster.accepted 0 =
        frame [0, 2, 4, 0, 0, 0, 7, 0] ++ frame [0, 2, 4, 0, 0, 0, 7, 0] :=
  ⟨Watch.fresh_lone _, by decide +kernel, by decide +kernel⟩

end Replying

end ConfigExchange
