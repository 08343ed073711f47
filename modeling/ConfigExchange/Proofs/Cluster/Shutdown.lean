import ConfigExchange.Proofs.Cluster.Stopping

/-! A site is shut down while any number of messages are exchanged. A message is sent only if its
writer had its buffer by then: all others fail, wherever they were waiting. -/
namespace ConfigExchange

open Cluster

/-! ### What was sent -/

/-- Whether the message was sent. -/
def Transmission.hasSent : Transmission → Bool
  | finished (.ok ()) => true
  | _ => false

/-- Whether the message was sent, and reached whom it was for. -/
def Delivery.hasSent (delivery : Delivery) : Bool := delivery.outcome? == some true

/-- Whether all that was to be sent so far was sent. A request was sent when its answer is waited
for, and the replies were sent when the next request is. -/
def Exchange.hasSent : Exchange → Bool
  | sending delivery => delivery.hasSent
  | requesting request =>
    match request.stage with
    | .sending transmission => transmission.hasSent
    | .reading _ | .finished (.ok _) => true
    | .finished (.error _) => false
  | answering answer =>
    match answer with
    | .replying delivery => delivery.hasSent
    | .finished (.ok []) => true
    | _ => false
  | serving server =>
    match server.stage with
    | .reading _ => true
    | .replying delivery => delivery.hasSent
    | .finished _ => false

section Sent

variable {cluster later : Cluster}

/-- A writer has sent its frame. -/
def Cluster.HasFlushed (cluster : Cluster) (id : SessionId) : Prop :=
  ∃ index, cluster.sessions[id]? = some (.writer index (.finished (.ok ())))

/-- A message is sent only by a writer that has sent its frame. -/
theorem Transmission.hasSent_step {transmission after : Transmission}
    (hStep : transmission.step cluster = some (after, later))
    (hWriter : ∀ id, transmission.writer? = some id → ¬ cluster.HasFlushed id) :
    after.hasSent = false := by
  cases transmission with
  | starting =>
      cases hStep
      rfl
  | acquiring writer message =>
      simp only [step] at hStep
      split at hStep
      · split at hStep <;> cases hStep <;> rfl
      · cases hStep
        rfl
      · obtain ⟨_, -, hNext⟩ := Option.map_eq_some_iff.1 hStep
        cases hNext
        rfl
  | flushing writer =>
      simp only [step] at hStep
      split at hStep
      · next index result hSession =>
        cases hStep
        cases result with
        | error => rfl
        | ok => exact absurd ⟨index, hSession⟩ (hWriter writer rfl)
      · obtain ⟨_, -, hNext⟩ := Option.map_eq_some_iff.1 hStep
        cases hNext
        rfl
  | finished => cases hStep

theorem Delivery.hasSent_sending (sender : Sender) (transmission : Transmission) :
    (sending sender transmission).hasSent = transmission.hasSent := by
  cases transmission with
  | finished result => cases result <;> rfl
  | starting | acquiring | flushing => rfl

theorem Delivery.hasSent_step {delivery after : Delivery}
    (hStep : delivery.step cluster = some (after, later)) (hNot : delivery.hasSent = false)
    (hWriter : ∀ id, delivery.transmission?.bind (·.writer?) = some id → ¬ cluster.HasFlushed id) :
    after.hasSent = false := by
  cases delivery with
  | starting sender message =>
      simp only [step] at hStep
      split at hStep
      · cases hStep
        rfl
      · split at hStep <;> cases hStep <;> rfl
  | sending sender transmission =>
      simp only [step] at hStep
      split at hStep
      · next result hResult =>
        cases hStep
        cases transmission with
        | finished found =>
            cases hResult
            cases result with
            | error error =>
                rw [hasSent, Send.outcome_conclude]
                rfl
            | ok => cases hNot
        | starting | acquiring | flushing => cases hResult
      · obtain ⟨⟨next, last⟩, hThen, hNext⟩ := Option.map_eq_some_iff.1 hStep
        cases hNext
        rw [hasSent_sending]
        exact Transmission.hasSent_step hThen hWriter
  | finished => cases hStep

theorem Requesting.hasSent_step {request after : Requesting}
    (hStep : request.step cluster = some (after, later))
    (hNot : (Exchange.requesting request).hasSent = false)
    (hWriter : ∀ id, (Exchange.requesting request).writer? = some id → ¬ cluster.HasFlushed id) :
    (Exchange.requesting after).hasSent = false := by
  obtain ⟨place, inlet, processor, stage⟩ := request
  obtain ⟨connection, -, hStep⟩ := Option.bind_eq_some_iff.1 hStep
  cases stage with
  | sending transmission =>
      cases transmission with
      | finished result =>
          cases hStep
          rcases result with ⟨error | error⟩ | _
          · rfl
          · rfl
          · cases hNot
      | starting | acquiring | flushing =>
          obtain ⟨⟨next, last⟩, hThen, hNext⟩ := Option.map_eq_some_iff.1 hStep
          cases hNext
          exact Transmission.hasSent_step hThen hWriter
  | reading => cases hNot
  | finished => cases hStep

theorem Answering.hasSent_step {answer after : Answering}
    (hStep : answer.step cluster = some (after, later))
    (hNot : (Exchange.answering answer).hasSent = false)
    (hWriter : ∀ id, (Exchange.answering answer).writer? = some id → ¬ cluster.HasFlushed id) :
    (Exchange.answering after).hasSent = false := by
  cases answer with
  | starting index frame =>
      obtain ⟨connection, -, hStep⟩ := Option.map_eq_some_iff.1 hStep
      split at hStep <;> cases hStep <;> rfl
  | replying delivery =>
      cases delivery with
      | finished sender result =>
          cases hStep
          rcases result with error | ⟨_ | ⟨first, members⟩⟩
          · rfl
          · cases hNot
          · rfl
      | starting | sending =>
          obtain ⟨⟨next, last⟩, hThen, hNext⟩ := Option.map_eq_some_iff.1 hStep
          cases hNext
          exact Delivery.hasSent_step hThen hNot hWriter
  | finished => cases hStep

theorem Serving.hasSent_step {server after : Serving}
    (hStep : server.step cluster = some (after, later))
    (hNot : (Exchange.serving server).hasSent = false)
    (hWriter : ∀ id, (Exchange.serving server).writer? = some id → ¬ cluster.HasFlushed id) :
    (Exchange.serving after).hasSent = false := by
  obtain ⟨place, inlet, stage⟩ := server
  obtain ⟨connection, -, hStep⟩ := Option.bind_eq_some_iff.1 hStep
  cases stage with
  | reading => cases hNot
  | replying delivery =>
      cases delivery with
      | finished sender result =>
          rcases result with error | ⟨_ | ⟨first, members⟩⟩
          · cases hStep
            rfl
          · cases hNot
          · cases hStep
            rfl
      | starting | sending =>
          obtain ⟨⟨next, last⟩, hThen, hNext⟩ := Option.map_eq_some_iff.1 hStep
          cases hNext
          exact Delivery.hasSent_step hThen hNot hWriter
  | finished => cases hStep

namespace Exchange

variable {exchange next : Exchange}

/-- Nothing is sent but by a writer that has sent its frame. -/
theorem hasSent_step (hStep : exchange.step cluster = some (next, later))
    (hNot : exchange.hasSent = false)
    (hWriter : ∀ id, exchange.writer? = some id → ¬ cluster.HasFlushed id) :
    next.hasSent = false := by
  cases exchange with
  | sending delivery =>
      obtain ⟨⟨after, last⟩, hGoes, hNext⟩ := Option.map_eq_some_iff.1 hStep
      cases hNext
      exact Delivery.hasSent_step hGoes hNot hWriter
  | requesting request =>
      obtain ⟨⟨after, last⟩, hGoes, hNext⟩ := Option.map_eq_some_iff.1 hStep
      cases hNext
      exact Requesting.hasSent_step hGoes hNot hWriter
  | answering answer =>
      obtain ⟨⟨after, last⟩, hGoes, hNext⟩ := Option.map_eq_some_iff.1 hStep
      cases hNext
      exact Answering.hasSent_step hGoes hNot hWriter
  | serving server =>
      obtain ⟨⟨after, last⟩, hGoes, hNext⟩ := Option.map_eq_some_iff.1 hStep
      cases hNext
      exact Serving.hasSent_step hGoes hNot hWriter

/-- While a message is being sent, it depends on that message. -/
theorem hasSent_of_transmission {transmission : Transmission}
    (hTransmission : exchange.transmission? = some transmission) :
    exchange.hasSent = transmission.hasSent := by
  have hDelivery {delivery : Delivery} (hSending : delivery.transmission? = some transmission) :
      delivery.hasSent = transmission.hasSent := by
    cases delivery with
    | sending sender found =>
        cases hSending
        exact Delivery.hasSent_sending ..
    | starting | finished => cases hSending
  cases exchange with
  | sending delivery => exact hDelivery hTransmission
  | requesting request =>
      obtain ⟨place, inlet, processor, stage⟩ := request
      cases stage with
      | sending found =>
          cases hTransmission
          rfl
      | reading | finished => cases hTransmission
  | answering answer =>
      cases answer with
      | replying delivery => exact hDelivery hTransmission
      | starting | finished => cases hTransmission
  | serving server =>
      obtain ⟨place, inlet, stage⟩ := server
      cases stage with
      | replying delivery => exact hDelivery hTransmission
      | reading | finished => cases hTransmission

theorem hasSent_of_writer? {id : SessionId} (hWriter : exchange.writer? = some id) :
    exchange.hasSent = false := by
  obtain ⟨transmission, hTransmission, hId⟩ := Option.bind_eq_some_iff.1 hWriter
  rw [hasSent_of_transmission hTransmission]
  cases transmission with
  | acquiring | flushing => rfl
  | starting | finished => cases hId

/-- Before a writer is opened there is none, and nothing was sent. -/
theorem transmission?_of_opens (hOpens : exchange.opens cluster ≠ []) :
    ∃ index message, exchange.transmission? = some (.starting index message) := by
  unfold opens at hOpens
  split at hOpens
  · next hTransmission => exact ⟨_, _, hTransmission⟩
  · exact absurd rfl hOpens

theorem writer?_of_opens (hOpens : exchange.opens cluster ≠ []) : exchange.writer? = none := by
  obtain ⟨index, message, hTransmission⟩ := transmission?_of_opens hOpens
  exact writer?_of_transmission? hTransmission

theorem hasSent_of_opens (hOpens : exchange.opens cluster ≠ []) : exchange.hasSent = false := by
  obtain ⟨index, message, hTransmission⟩ := transmission?_of_opens hOpens
  exact hasSent_of_transmission hTransmission

end Exchange

end Sent

/-! ### What a shutdown refuses -/

/-- A writer has no buffer yet, if it is there at all. -/
def Cluster.Lacks (cluster : Cluster) (index : Nat) (id : SessionId) : Prop :=
  ∀ stage, cluster.stage? index id = some stage → stage.isBlank = true

/-- Nothing was sent by the last writer of an exchange, if it had no buffer at some moment. -/
def Affair.Refused (marked : Cluster) (affair : Affair) : Prop :=
  ∀ id, affair.writers.head? = some id → marked.Lacks affair.connection id →
    affair.exchange.hasSent = false

/-- A connection of a site stays where it is. -/
theorem Affair.Sound.site {cluster : Cluster} {affair : Affair} {deeds : List Deed} {site : Nat}
    (hSound : affair.Sound cluster)
    (hHome : (cluster.enactAll deeds).siteOf? (.writer affair.connection .starting) = some site) :
    cluster.siteOf? (.writer affair.connection .starting) = some site := by
  obtain ⟨found, hBind⟩ := Option.isSome_iff_exists.1 hSound.home
  obtain ⟨place, hPlace, -⟩ := Option.bind_eq_some_iff.1 hBind
  rw [hPlace, ← siteOf?_enactAll hPlace deeds, hHome]

namespace Affairs

variable {start marked : Cluster} {affairs : Affairs} {site : Nat}

/-- Nothing was sent on the connections of a site by those who had no buffer. -/
def Refuses (start marked : Cluster) (site : Nat) (affairs : Affairs) : Prop :=
  ∀ affair ∈ affairs.parties,
    (start.enactAll affairs.history).siteOf? (.writer affair.connection .starting) = some site →
      affair.Refused marked

/-- No writer on the connections of a site that had no buffer has got any further. -/
def Denies (start marked : Cluster) (site : Nat) (affairs : Affairs) : Prop :=
  ∀ index id, (start.enactAll affairs.history).siteOf? (.writer index .starting) = some site →
    marked.Lacks index id →
      ∀ stage, (start.enactAll affairs.history).stage? index id = some stage → stage.Denied

theorem Refuses.others (hRefuses : Refuses start marked site affairs) (hSound : Sound start affairs)
    (deeds : List Deed) {list : List Affair} (hList : list ⊆ affairs.parties) :
    Refuses start marked site ⟨affairs.history ++ deeds, list⟩ := by
  intro affair hAffair hHome
  rw [enactAll_append] at hHome
  exact hRefuses affair (hList hAffair) ((hSound.each affair (hList hAffair)).site hHome)

/-- An exchange whose writer was refused has sent nothing by it. -/
theorem refused_go (hSound : Sound start affairs) (hDenies : Denies start marked site affairs)
    {affair : Affair} (hAffair : affair ∈ affairs.parties) (hRefused : affair.Refused marked)
    (hHome : (start.enactAll affairs.history).siteOf? (.writer affair.connection .starting) =
      some site) {next : Exchange} {later : Cluster}
    (hStep : affair.exchange.step (start.enactAll affairs.history) = some (next, later)) :
    Affair.Refused marked { affair with
      exchange := next
      writers := affair.exchange.opens (start.enactAll affairs.history) ++ affair.writers } := by
  intro id hHead hLacks
  have hOwn := hSound.each affair hAffair
  by_cases hOpens : affair.exchange.opens (start.enactAll affairs.history) = []
  · simp only [hOpens, List.nil_append] at hHead
    refine Exchange.hasSent_step hStep (hRefused id hHead hLacks) ?_
    rintro other hOther ⟨index, hFlushed⟩
    cases hHead.symm.trans (hOwn.last other hOther)
    obtain ⟨stage, hStage, -⟩ := hOwn.writers id (hOwn.mem_writers hOther)
    cases (stage?_eq_some.1 hStage).symm.trans hFlushed
    rcases hDenies _ id hHome hLacks _ hStage with hBlank | hFailed
    · cases hBlank
    · cases hFailed
  · refine Exchange.hasSent_step hStep (Exchange.hasSent_of_opens hOpens) fun other hOther => ?_
    cases (Exchange.writer?_of_opens hOpens).symm.trans hOther

theorem Refuses.move (hRefuses : Refuses start marked site affairs) (hSound : Sound start affairs)
    (hDenies : Denies start marked site affairs) (move : Move) :
    Refuses start marked site (affairs.move start move) := by
  have hTurn := conduct.turn_move start affairs move
  unfold Affairs.move
  generalize conduct.move start affairs move = next at hTurn ⊢
  cases hTurn with
  | still => exact hRefuses
  | enters hEnter =>
      intro affair hAffair hHome
      rcases List.mem_append.1 hAffair with hOld | hNew
      · exact hRefuses affair hOld hHome
      · cases List.mem_singleton.1 hNew
        obtain ⟨-, hBegun⟩ := Option.ite_none_right_eq_some.1 hEnter
        cases hBegun
        intro id hHead
        cases hHead
  | goes hAffair hStep =>
      obtain ⟨exchange, hExchange, rfl⟩ := Affair.step_eq_some hStep
      have hMem := List.mem_of_getElem? hAffair
      intro other hOther hHome
      rcases List.mem_or_eq_of_mem_set hOther with hOld | rfl
      · exact hRefuses.others hSound _ (List.Subset.refl _) other hOld hHome
      · rw [enactAll_append] at hHome
        have hHere := (hSound.each _ hMem).site hHome
        exact refused_go hSound hDenies hMem (hRefuses _ hMem hHere) hHere hExchange
  | leaves => exact hRefuses.others hSound _ (List.eraseIdx_sublist ..).subset
  | others => exact hRefuses.others hSound _ (List.Subset.refl _)

end Affairs

/-! ### The site that was shut down -/

namespace Cluster

/-- What a site is like once it was shut down, at some moment that is marked: the signal tells one
reason, nothing new is sent, who had no buffer at the marked moment gets none and fails, and of what
the sockets accept everything is sent by those who had theirs. -/
structure Silenced (site : Nat) (reason : String) (enabled : Bool) (marked last : Cluster) :
    Prop where
  cancelled : ∀ connection : Connection, connection.site = site →
    last.cancelReason connection = some reason
  sends : ∀ sender message connection, last.connections[sender.connection]? = some connection →
    connection.site = site → sender.isSent = false →
      (Delivery.starting sender message).step last =
        some (.finished sender (.error (.cancelled reason)), last)
  /-- A writer without a buffer fails, or is about to: it may only have to wait for the lock, until
  its alarm. -/
  writers : ∀ index connection id stage, last.connections[index]? = some connection →
    connection.site = site → marked.Lacks index id → last.stage? index id = some stage →
      stage.Failed ∨ stage.isBlank = true ∧
        ((last.step id = none ∧ connection.lock.holder ≠ some id ∧
          ∃ alarm, stage = .queued alarm ∧ last.now < alarm.moment) ∨
        ∃ after next, last.step id = some after ∧ after.stage? index id = some next ∧
          next.stepsLeft < stage.stepsLeft)
  calls : ∀ index connection event, last.connections[index]? = some connection →
    connection.site = site → ∀ call ∈ callsIn index last event, call.call = .shutdown ∨
      ∃ buffer, (marked.claims site)[call.caller]? = some (some (.has buffer))
  accepted : ∀ index connection deed, last.connections[index]? = some connection →
    connection.site = site → (last.enact deed).accepted index ≠ last.accepted index →
      ∃ id buffer, deed = .use (.step id) ∧
        (marked.claims site)[id]? = some (some (.has buffer))
  answers : ∀ useCache requested, (last.handle site useCache requested).1 =
    if enabled then .notReady else .fatal notEnabledReason
  sources : ∃ found, last.sites[site]? = some found ∧
    ∀ source, found.service.publish source = none

end Cluster

/-- No order enables a service, or disables it. -/
theorem Site.enabled_heeding (place : Nat) (site : Site) (deed : Deed) :
    (heeding place site deed).service.enabled = site.service.enabled := by
  have hStop : site.service.stop.enabled = site.service.enabled := by
    unfold Service.stop
    split <;> rfl
  cases deed with
  | use | ask | around => rfl
  | tell other order =>
      by_cases hPlace : other = place
      · rw [heeding, if_pos hPlace]
        cases order with
        | cancel | closePool => rfl
        | shutdown | stopService => exact hStop
        | publish source =>
            simp only [obey, Service.publish]
            split <;> rfl
      · rw [heeding, if_neg hPlace]

namespace Cluster

variable {cluster : Cluster} {site : Nat} {found : Site} {reason : String}

/-- Whether the service is enabled is settled when the member is started. -/
theorem enabled_enactAll (hPlaced : cluster.Placed) (hFound : cluster.sites[site]? = some found)
    (deeds : List Deed) :
    ∃ next, (cluster.enactAll deeds).sites[site]? = some next ∧
      next.service.enabled = found.service.enabled := by
  induction deeds generalizing cluster found with
  | nil => exact ⟨found, hFound, rfl⟩
  | cons deed rest ih =>
      obtain ⟨pool, cache, hNext, -⟩ := poolTurn_enact hPlaced hFound deed
      obtain ⟨last, hLast, hEnabled⟩ := ih (hPlaced.enact deed) hNext
      exact ⟨last, hLast, hEnabled.trans (Site.enabled_heeding site found deed)⟩

/-- A site that is told to shut down is down then, for the first reason that was given. -/
theorem isDown_told (hPlaced : cluster.Placed) (hFound : cluster.sites[site]? = some found)
    (hFresh : found.signal.reason = none) (deeds : List Deed) (reason : String) :
    ∃ down, (cluster.enactAll (deeds ++ [.tell site (.shutdown reason)])).sites[site]? = some down ∧
      down.IsDown ((reasons site deeds).head?.getD reason) ∧
      down.service.enabled = found.service.enabled := by
  obtain ⟨next, hNext, hReason⟩ := reason_enactAll hPlaced hFound deeds
  obtain ⟨same, hSame, hEnabled⟩ := enabled_enactAll hPlaced hFound deeds
  cases hNext.symm.trans hSame
  rw [hFresh, Option.none_or] at hReason
  refine ⟨next.obey (.shutdown reason), ?_, hReason ▸ Site.isDown_shutdown next reason, ?_⟩
  · rw [enactAll_concat]
    show ((cluster.enactAll deeds).sites.modify site _)[site]? = _
    rw [List.getElem?_modify_eq, hNext]
    rfl
  · have hHeeds := Site.enabled_heeding site next (.tell site (.shutdown reason))
    rw [heeding, if_pos rfl] at hHeeds
    exact hHeeds.trans hEnabled

theorem head?_reasons_told (site : Nat) (deeds later : List Deed) (reason : String) :
    (reasons site (deeds ++ [.tell site (.shutdown reason)] ++ later)).head? =
      some ((reasons site deeds).head?.getD reason) := by
  have hReasons : reasons site [.tell site (.shutdown reason)] = [reason] := by
    simp [reasons, Order.reason?]
  rw [reasons_append, reasons_append, hReasons, List.append_assoc, List.head?_append]
  cases (reasons site deeds).head? <;> rfl

theorem silenced_enactAll (hPlaced : cluster.Placed) (hFound : cluster.sites[site]? = some found)
    (hDown : found.IsDown reason) (deeds : List Deed) :
    Silenced site reason found.service.enabled cluster (cluster.enactAll deeds) := by
  obtain ⟨next, hNext, hStays⟩ := isDown_enactAll hPlaced hFound hDown deeds
  obtain ⟨same, hSame, hEnabled⟩ := enabled_enactAll hPlaced hFound deeds
  cases hNext.symm.trans hSame
  have hReason (connection : Connection) (hSite : connection.site = site) :
      (cluster.enactAll deeds).cancelReason connection = some reason := by
    rw [cancelReason, hSite, hNext]
    exact hStays.signal
  have hHome {index : Nat} {connection : Connection} (hSite : connection.site = site)
      (hConnection : (cluster.enactAll deeds).connections[index]? = some connection) :
      (cluster.enactAll deeds).siteOf? (.writer index .starting) = some site := by
    rw [siteOf?, hConnection, ← hSite]
    rfl
  refine ⟨hReason, fun sender message connection hConnection hSite hUnsent => ?_,
    fun index connection id stage hConnection hSite hLacks hStage => ?_,
    fun index connection event hConnection hSite call hCall => ?_,
    fun index connection deed hConnection hSite hMore => ?_, fun useCache requested => ?_,
    next, hNext, hStays.publish⟩
  · simp [Delivery.step, hUnsent, hConnection, hReason connection hSite]
  · rcases denied_enactAll hPlaced hFound hDown hLacks deeds (hHome hSite hConnection) stage hStage
      with hBlank | hFailed
    · exact .inr ⟨hBlank, step_of_isDown hConnection (hSite ▸ hNext) hStays hStage hBlank⟩
    · exact .inl hFailed
  · refine (caller_cases hCall (hHome hSite hConnection)).imp_right ?_
    rintro ⟨buffer, hClaim⟩
    exact claims_of_closed hPlaced hFound hDown deeds hClaim
  · obtain ⟨id, buffer, hDeed, hClaim⟩ := (accepted_enact hConnection deed).resolve_left hMore
    obtain ⟨old, hOld⟩ := claims_of_closed hPlaced hFound hDown deeds (hSite ▸ hClaim)
    exact ⟨id, old, hDeed, hOld⟩
  · rw [handle_of_isDown hNext hStays, hEnabled]

end Cluster

namespace Affairs

variable {start : Cluster} {affairs : Affairs} {site : Nat} {found : Site} {reason : String}

/-- Whoever has no buffer yet has not sent its message. -/
theorem Sound.refuses (hSound : Sound start affairs) :
    Refuses start (start.enactAll affairs.history) site affairs := by
  intro affair hAffair _ id hHead hLacks
  obtain ⟨stage, hStage, hCurrent⟩ :=
    (hSound.each affair hAffair).writers id (List.mem_of_head? hHead)
  have hBlank := hLacks stage hStage
  rcases hCurrent with hOver | hWriter
  · cases stage <;> cases hBlank <;> cases hOver
  · exact Exchange.hasSent_of_writer? hWriter

/-- From the moment at which a site is down, nothing is sent by those who have no buffer then. -/
theorem refuses_run (hSound : Sound start affairs) (hPlaced : start.Placed)
    (hFound : (start.enactAll affairs.history).sites[site]? = some found)
    (hDown : found.IsDown reason) (moves : List Move) :
    Refuses start (start.enactAll affairs.history) site (affairs.run start moves) := by
  induction moves using List.reverseRecOn with
  | nil => exact hSound.refuses
  | append_singleton moves last ih =>
      rw [Affairs.run, conduct.run_concat]
      refine ih.move ((keeps_sound hPlaced).run hSound moves) ?_ last
      intro index id hHome hLacks stage hStage
      obtain ⟨deeds, hDeeds⟩ : ∃ deeds, (affairs.run start moves).history =
          affairs.history ++ deeds := conduct.history_run start affairs moves
      rw [hDeeds, enactAll_append] at hHome hStage
      exact denied_enactAll (hPlaced.enactAll _) hFound hDown hLacks deeds hHome stage hStage

/-- Once a site is shut down, whatever was going on and whatever comes after: the signal tells the
first reason that was ever given, no matter on which connection; a send that has not begun is
cancelled with it and makes no call; whoever had no buffer at that moment comes to have none and
fails, and so nothing is sent by any exchange that relied on it; requests for configuration find
nothing, and no source is taken. -/
theorem silenced_run (members : List (Member × Settings)) (before later : List Move) {site : Nat}
    {member : Member × Settings} (hMember : members[site]? = some member) (reason : String) :
    let start := ofMembers members
    let earlier := Affairs.run start {} before
    let told := earlier.move start (.other (.tell site (.shutdown reason)))
    let marked := start.enactAll told.history
    let affairs := told.run start later
    let last := start.enactAll affairs.history
    let first := ((reasons site earlier.history).head?).getD reason
    (reasons site affairs.history).head? = some first ∧
      (∀ done rest, affairs.history = told.history ++ done ++ rest →
        Silenced site first member.2.configurationEnabled marked (marked.enactAll done)) ∧
      Silenced site first member.2.configurationEnabled marked last ∧
      ∀ affair ∈ affairs.parties, ∀ connection,
        last.connections[affair.connection]? = some connection → connection.site = site →
          affair.Refused marked := by
  intro start earlier told marked affairs last first
  have hPlaced : start.Placed := placed_ofMembers members
  have hTold : told.history = earlier.history ++ [.tell site (.shutdown reason)] := by
    simp [told, move, conduct, Conduct.move, Conduct.owns, Deed.subject?]
  obtain ⟨deeds, hDeeds⟩ : ∃ deeds, affairs.history = told.history ++ deeds :=
    conduct.history_run start told later
  obtain ⟨down, hSite, hDown, hEnabled⟩ :=
    isDown_told hPlaced (site_ofMembers hMember) rfl earlier.history reason
  rw [← hTold] at hSite
  have hSilenced (done : List Deed) :
      Silenced site first member.2.configurationEnabled marked (marked.enactAll done) := by
    have hStays : down.service.enabled = member.2.configurationEnabled := hEnabled
    rw [← hStays]
    exact silenced_enactAll (hPlaced.enactAll _) hSite hDown done
  have hLast : last = marked.enactAll deeds := by
    rw [← enactAll_append, ← hDeeds]
  refine ⟨?_, fun done _ _ => hSilenced done, hLast ▸ hSilenced deeds,
    fun affair hAffair connection hConnection hHere => ?_⟩
  · rw [hDeeds, hTold]
    exact head?_reasons_told site earlier.history deeds reason
  · have hKeeps := keeps_sound hPlaced
    have hSound : Sound start told := hKeeps.move (hKeeps.run (Conduct.Sound.idle ..) before) _
    refine refuses_run hSound hPlaced hSite hDown later affair hAffair ?_
    show last.siteOf? _ = some site
    rw [siteOf?, hConnection, ← hHere]
    rfl

/-- One send has the only buffer and is kept waiting by its peer, and another one waits for the
lock, when the site is shut down. The first is completed, the second fails, and a third is
cancelled. -/
theorem silenced_while_stalled :
    let members : List (Member × Settings) := [(Replying.peer, { poolSize := 1 })]
    let start := ofMembers members
    let connect : Deed :=
      .use (.connect 0 Replying.peer .v2 (.socket { script := { writes := [.stall] } }))
    let send : Move :=
      .begin (0, .send { connection := 0, recipient := Replying.peer } fun _ => ⟨[[7]], none⟩)
    let before := [.other connect, send, send] ++ List.replicate 7 (.go 0) ++
      List.replicate 3 (.go 1)
    let later := [.other (.use (.unstall 0))] ++ List.replicate 8 (.go 0) ++
      List.replicate 6 (.go 1) ++ [send, .go 2, .other (.tell 0 (.cancel "again"))]
    let told := (Affairs.run start {} before).move start (.other (.tell 0 (.shutdown "bye")))
    let affairs := told.run start later
    let last := start.enactAll affairs.history
    (affairs.parties.map fun affair => (affair.writers, affair.exchange.hasSent)) =
        [([0], true), ([1], false), ([], false)] ∧
      last.accepted 0 = [0, 0, 0, 1, 7] ∧ (reasons 0 affairs.history).head? = some "bye" ∧
      Silenced 0 "bye" true (start.enactAll told.history) last := by
  intro members start connect send before later told affairs last
  have hMember : members[0]? = some (Replying.peer, { poolSize := 1 }) := rfl
  have hFirst : ((reasons 0 (Affairs.run start {} before).history).head?).getD "bye" = "bye" := by
    decide +kernel
  obtain ⟨hReasons, -, hSilenced, -⟩ := silenced_run members before later hMember "bye"
  rw [hFirst] at hReasons hSilenced
  exact ⟨by decide +kernel, by decide +kernel, hReasons, hSilenced⟩

end Affairs

end ConfigExchange
