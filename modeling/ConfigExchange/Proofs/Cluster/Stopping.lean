import ConfigExchange.Proofs.Cluster.Shares

/-! A site that has been shut down stays so. Its signal keeps the first reason, its service and its
pool never come back, and so nobody comes to have a buffer who has none. -/
namespace ConfigExchange

open Cluster

/-- A site that has been shut down, and the reason that is given for it. -/
structure Site.IsDown (site : Site) (reason : String) : Prop where
  signal : site.signal.reason = some reason
  service : site.service.enabled = true → site.service.phase = .stopped
  pool : site.pool.closed = true

/-- How a writer ends that is not to be given a buffer: it has none yet, or failed. -/
def WriterStage.Denied (stage : WriterStage) : Prop := stage.isBlank = true ∨ stage.Failed

/-- How many steps a writer that is not given a buffer takes at most. -/
def WriterStage.stepsLeft : WriterStage → Nat
  | starting => 3
  | queued _ => 2
  | awaiting .. => 1
  | _ => 0

/-- Who has no buffer comes to have one only by being given it. -/
theorem WriterTurn.denied {id : SessionId} {connection next : Connection} {stage last : WriterStage}
    (hTurn : WriterTurn id connection stage next last) (hStage : stage.Denied) :
    last.Denied ∨ ∃ buffer, last = .opened buffer ∧ stage.isBlank = true := by
  rcases hStage with hBlank | hFailed
  · cases hTurn with
    | queues | asks => exact .inl (.inl rfl)
    | gets => exact .inr ⟨_, rfl, rfl⟩
    | leaves _ hRefusal | quits _ hRefusal => exact .inl (.inr hRefusal.failed)
    | fills | flushes | sends | completes | breaks => cases hBlank
  · exact .inl (.inr (hTurn.failed hFailed))

/-- A shutdown takes no bytes. -/
theorem Outlet.accepted_shutdown {outlet next : Outlet} {channels later : Channels}
    {answer : CallAnswer} (hCall : outlet.call channels .shutdown = (answer, next, later)) :
    next.accepted = outlet.accepted := by
  cases outlet with
  | socket socket =>
      cases hCall
      exact socket.accepted_shutdown
  | channel place side =>
      unfold Outlet.call at hCall
      cases hFound : channels[place]? with
      | none | some found =>
          simp only [hFound] at hCall
          cases hCall
          rfl

namespace Site

variable {site : Site} {reason : String}

theorem reason_obey (site : Site) (order : Order) :
    (site.obey order).signal.reason = site.signal.reason.or order.reason? := by
  cases order with
  | cancel | shutdown => rfl
  | closePool | stopService | publish => exact (Option.or_none).symm

theorem reason_heeding (place : Nat) (site : Site) (deed : Deed) :
    (heeding place site deed).signal.reason =
      site.signal.reason.or (reasons place [deed]).head? := by
  cases deed with
  | tell other order =>
      by_cases hPlace : other = place
      · rw [heeding, if_pos hPlace, reason_obey]
        cases hReason : order.reason? <;> simp [reasons, hPlace, hReason]
      · rw [heeding, if_neg hPlace]
        simp [reasons, hPlace]
  | use | ask | around => exact (Option.or_none).symm

/-- A service that is stopped, or was never enabled, takes no source. -/
theorem IsDown.publish (hDown : site.IsDown reason) (source : Nat) :
    site.service.publish source = none :=
  if_neg fun ⟨hEnabled, hPhase, _⟩ => hPhase (hDown.service hEnabled)

theorem IsDown.obey (hDown : site.IsDown reason) (order : Order) :
    (site.obey order).IsDown reason := by
  have hSignal : (site.obey order).signal.reason = some reason := by
    rw [reason_obey, hDown.signal]
    rfl
  have hStop : site.service.stop.enabled = true → site.service.stop.phase = .stopped := by
    unfold Service.stop
    split
    · exact fun _ => rfl
    · exact hDown.service
  cases order with
  | cancel => exact ⟨hSignal, hDown.service, hDown.pool⟩
  | shutdown => exact ⟨hSignal, hStop, rfl⟩
  | closePool => exact ⟨hSignal, hDown.service, rfl⟩
  | stopService => exact ⟨hSignal, hStop, hDown.pool⟩
  | publish source =>
      refine ⟨hSignal, ?_, hDown.pool⟩
      show ((site.service.publish source).getD site.service).enabled = true → _
      rw [Site.obey, hDown.publish]
      exact hDown.service

/-- Whoever is told to shut down is down. -/
theorem isDown_shutdown (site : Site) (reason : String) :
    (site.obey (.shutdown reason)).IsDown ((site.signal.reason).getD reason) where
  signal := by
    show site.signal.reason.or (some reason) = _
    cases site.signal.reason <;> rfl
  service := by
    show site.service.stop.enabled = true → site.service.stop.phase = .stopped
    unfold Service.stop
    split
    · exact fun _ => rfl
    · next hEnabled => exact fun hTrue => absurd hTrue hEnabled
  pool := rfl

theorem IsDown.heeding (hDown : site.IsDown reason) (place : Nat) (deed : Deed) :
    (heeding place site deed).IsDown reason := by
  cases deed with
  | tell other order =>
      by_cases hPlace : other = place
      · rw [Cluster.heeding, if_pos hPlace]
        exact hDown.obey order
      · rw [Cluster.heeding, if_neg hPlace]
        exact hDown
  | use | ask | around => exact hDown

end Site

namespace Cluster

variable {cluster later : Cluster} {site index : Nat} {found : Site} {id : SessionId}
  {reason : String} {stage : WriterStage} {connection : Connection}

/-! ### The site -/

theorem reasons_append (site : Nat) (first second : List Deed) :
    reasons site (first ++ second) = reasons site first ++ reasons site second :=
  List.filterMap_append

/-- The signal of a site tells the first reason that was ever given. -/
theorem reason_enactAll (hPlaced : cluster.Placed) (hFound : cluster.sites[site]? = some found)
    (deeds : List Deed) :
    ∃ next, (cluster.enactAll deeds).sites[site]? = some next ∧
      next.signal.reason = found.signal.reason.or (reasons site deeds).head? := by
  induction deeds generalizing cluster found with
  | nil => exact ⟨found, hFound, (Option.or_none).symm⟩
  | cons deed rest ih =>
      obtain ⟨pool, cache, hNext, -⟩ := poolTurn_enact hPlaced hFound deed
      obtain ⟨last, hLast, hReason⟩ := ih (hPlaced.enact deed) hNext
      refine ⟨last, hLast, hReason.trans ?_⟩
      show (heeding site found deed).signal.reason.or _ = _
      rw [Site.reason_heeding, Option.or_assoc, ← List.head?_append, ← reasons_append]
      rfl

theorem isDown_enact (hPlaced : cluster.Placed) (hFound : cluster.sites[site]? = some found)
    (hDown : found.IsDown reason) (deed : Deed) :
    ∃ next, (cluster.enact deed).sites[site]? = some next ∧ next.IsDown reason ∧
      PoolTurn (cluster.claims site) found.pool ((cluster.enact deed).claims site) next.pool := by
  obtain ⟨pool, cache, hNext, hTurn⟩ := poolTurn_enact hPlaced hFound deed
  have hHeeds := hDown.heeding site deed
  exact ⟨_, hNext, ⟨hHeeds.signal, hHeeds.service, hTurn.closed hDown.pool⟩, hTurn⟩

/-- A site that is down stays down. -/
theorem isDown_enactAll (hPlaced : cluster.Placed) (hFound : cluster.sites[site]? = some found)
    (hDown : found.IsDown reason) (deeds : List Deed) :
    ∃ next, (cluster.enactAll deeds).sites[site]? = some next ∧ next.IsDown reason := by
  induction deeds generalizing cluster found with
  | nil => exact ⟨found, hFound, hDown⟩
  | cons deed rest ih =>
      obtain ⟨next, hNext, hStays, -⟩ := isDown_enact hPlaced hFound hDown deed
      exact ih (hPlaced.enact deed) hNext hStays

/-- A site that is down has no configuration to give. -/
theorem handle_of_isDown (hFound : cluster.sites[site]? = some found) (hDown : found.IsDown reason)
    (useCache : Bool) (requested : NameSet) :
    (cluster.handle site useCache requested).1 =
      if found.service.enabled then .notReady else .fatal notEnabledReason := by
  have hHandled (find : Nat → Option Source) (cache : Option Cache) (now : Micros) :
      (found.service.handle find cache now requested).outcome =
        if found.service.enabled then .notReady else .fatal notEnabledReason := by
    unfold Service.handle Service.status
    cases hEnabled : found.service.enabled with
    | false => rfl
    | true =>
        rw [hDown.service hEnabled]
        rfl
  unfold handle
  rw [hFound]
  exact hHandled _ _ _

/-! ### The sessions -/

/-- What a writer has of the pool of the site that it is at. -/
theorem claims_of_stage? (hStage : cluster.stage? index id = some stage)
    (hHome : cluster.siteOf? (.writer index stage) = some site) :
    (cluster.claims site)[id]? = some stage.claim? := by
  rw [claims, List.getElem?_map, stage?_eq_some.1 hStage, Option.map_some, claimOn, if_pos hHome]
  rfl

/-- Who has a buffer had one when the pool was closed. -/
theorem claims_of_closed (hPlaced : cluster.Placed) (hFound : cluster.sites[site]? = some found)
    (hDown : found.IsDown reason) (deeds : List Deed) {buffer : Buffer}
    (hHas : ((cluster.enactAll deeds).claims site)[id]? = some (some (.has buffer))) :
    ∃ old, (cluster.claims site)[id]? = some (some (.has old)) := by
  induction deeds generalizing cluster found with
  | nil => exact ⟨buffer, hHas⟩
  | cons deed rest ih =>
      obtain ⟨next, hNext, hStays, hTurn⟩ := isDown_enact hPlaced hFound hDown deed
      obtain ⟨old, hOld⟩ := ih (hPlaced.enact deed) hNext hStays hHas
      by_contra hNone
      obtain ⟨-, hOpen⟩ := hTurn.hands_out (fun old hBefore => hNone ⟨old, hBefore⟩) hOld
      cases hOpen.symm.trans hDown.pool

/-- Nobody writes on a connection that is not there yet, nor when it has just been made. -/
theorem Placed.stage?_enact_eq_none (hPlaced : cluster.Placed)
    (hNone : cluster.connections[index]? = none) (deed : Deed) (id : SessionId) :
    (cluster.enact deed).stage? index id = none := by
  have hStages := hPlaced.stage?_eq_none hNone id
  rcases enact_cases cluster deed with hSame | ⟨event, -, hEvent⟩
  · rw [hSame, hStages]
  · have hLater := hPlaced.enact deed
    rw [hEvent] at hLater ⊢
    rcases connections_perform_none hNone event with hStill | ⟨_, _, _, _, rfl⟩
    · exact hLater.stage?_eq_none hStill id
    · exact hStages

/-- A writer that had no buffer when the pool was closed never comes to have one. -/
theorem denied_enactAll (hPlaced : cluster.Placed) (hFound : cluster.sites[site]? = some found)
    (hDown : found.IsDown reason)
    (hBlank : ∀ stage, cluster.stage? index id = some stage → stage.isBlank = true)
    (deeds : List Deed)
    (hHome : (cluster.enactAll deeds).siteOf? (.writer index .starting) = some site) :
    ∀ stage, (cluster.enactAll deeds).stage? index id = some stage → stage.Denied := by
  induction deeds using List.reverseRecOn with
  | nil => exact fun stage hStage => .inl (hBlank stage hStage)
  | append_singleton deeds deed ih =>
      rw [enactAll_concat] at hHome ⊢
      intro last hLast
      have hMid := hPlaced.enactAll deeds
      obtain ⟨mid, hMidFound, hMidDown⟩ := isDown_enactAll hPlaced hFound hDown deeds
      cases hConnection : (cluster.enactAll deeds).connections[index]? with
      | none => cases (hMid.stage?_enact_eq_none hConnection deed id).symm.trans hLast
      | some connection =>
          have hBefore : (cluster.enactAll deeds).siteOf? (.writer index .starting) =
              some connection.site := by
            rw [siteOf?, hConnection]
            rfl
          obtain rfl : connection.site = site :=
            Option.some_inj.1 ((siteOf?_enact hBefore deed).symm.trans hHome)
          obtain ⟨next, -, hTurn⟩ := turn_enact hConnection deed
          rcases hTurn.stage_cases hLast with hSame | ⟨-, -, rfl⟩ | ⟨stage, -, hStage, hWriter⟩
          · exact ih hBefore last hSame
          · exact .inl rfl
          · rcases hWriter.denied (ih hBefore stage hStage) with hDenied | ⟨buffer, rfl, hNone⟩
            · exact hDenied
            · -- The pool is closed, so nobody is given a buffer.
              obtain ⟨next, -, -, hPool⟩ := isDown_enact hMid hMidFound hMidDown deed
              have hNot : ∀ old, ((cluster.enactAll deeds).claims connection.site)[id]? ≠
                  some (some (.has old)) := by
                intro old hOld
                rw [claims_of_stage? hStage hBefore] at hOld
                cases stage <;> cases hNone <;> cases hOld
              obtain ⟨-, hOpen⟩ := hPool.hands_out hNot (claims_of_stage? hLast hHome)
              cases hOpen.symm.trans hMidDown.pool

/-- A writer without a buffer has not far to go: only for the lock it may have to wait, and not for
longer than its alarm. -/
theorem step_of_isDown (hConnection : cluster.connections[index]? = some connection)
    (hFound : cluster.sites[connection.site]? = some found) (hDown : found.IsDown reason)
    (hStage : cluster.stage? index id = some stage) (hBlank : stage.isBlank = true) :
    (cluster.step id = none ∧ connection.lock.holder ≠ some id ∧
      ∃ alarm, stage = .queued alarm ∧ cluster.now < alarm.moment) ∨
      ∃ after last, cluster.step id = some after ∧ after.stage? index id = some last ∧
        last.stepsLeft < stage.stepsLeft := by
  have hSession := stage?_eq_some.1 hStage
  have hStep : cluster.step id = cluster.stepWriter id index connection found.pool stage := by
    simp [step, hSession, hConnection, pool?, hFound]
  have hGoes {after : Cluster} {last : WriterStage}
      (hSessions : after.sessions = cluster.sessions.set id (.writer index last)) :
      after.stage? index id = some last := stage?_of_set hSession hSessions
  rw [hStep]
  cases stage with
  | starting =>
      simp only [stepWriter]
      split
      · exact .inr ⟨_, _, rfl, hGoes (sessions_conclude ..), by simp [WriterStage.stepsLeft]⟩
      · exact .inr ⟨_, _, rfl, hGoes rfl, by simp [WriterStage.stepsLeft]⟩
  | queued alarm =>
      simp only [stepWriter]
      split
      · split
        · exact .inr ⟨_, _, rfl, hGoes (sessions_conclude ..), by simp [WriterStage.stepsLeft]⟩
        · refine .inr ⟨_, .awaiting (alarm.moment - cluster.now)
            (cluster.setAlarm (alarm.moment - cluster.now)).1, rfl, hGoes ?_,
            by simp [WriterStage.stepsLeft]⟩
          rw [sessions_setSession, sessions_modifyPoolOf]
          rfl
      · next hLock =>
        split
        · exact .inr ⟨_, _, rfl, hGoes (sessions_conclude ..), by simp [WriterStage.stepsLeft]⟩
        · next hLate => exact .inl ⟨rfl, hLock, alarm, rfl, Nat.lt_of_not_le hLate⟩
  | awaiting limit alarm =>
      have hCollect : found.pool.collect id = (.closed, found.pool) := if_pos hDown.pool
      simp only [stepWriter, hCollect]
      exact .inr ⟨_, _, rfl, hGoes (sessions_conclude ..), by simp [WriterStage.stepsLeft]⟩
  | opened | sending | finished | dropped => cases hBlank

/-! ### The streams -/

/-- Who makes a call on a stream closes it, or has a buffer. -/
theorem caller_cases {event : Event} {call : Call} (hCall : call ∈ callsIn index cluster event)
    (hHome : cluster.siteOf? (.writer index .starting) = some site) :
    call.call = .shutdown ∨ ∃ buffer,
      (cluster.claims site)[call.caller]? = some (some (.has buffer)) := by
  obtain ⟨connection, -, -, -, -, ⟨buffer, rest, pool, hStage, -⟩ | ⟨-, hShutdown, -⟩⟩ :=
    callsIn_cases hCall
  · exact .inr ⟨buffer, claims_of_stage? hStage hHome⟩
  · exact .inl hShutdown

/-- Bytes are accepted in the step of one who has a buffer. -/
theorem accepted_enact (hConnection : cluster.connections[index]? = some connection) (deed : Deed) :
    (cluster.enact deed).accepted index = cluster.accepted index ∨
      ∃ id buffer, deed = .use (.step id) ∧
        (cluster.claims connection.site)[id]? = some (some (.has buffer)) := by
  have hHome : cluster.siteOf? (.writer index .starting) = some connection.site := by
    rw [siteOf?, hConnection]
    rfl
  cases deed with
  | tell | ask | around => exact .inl rfl
  | use event =>
      by_cases hUse : event.isUse cluster = true
      · rw [Transmission.enactAll_use hUse]
        obtain ⟨next, hNext, hTurn⟩ := calls_perform hConnection event
        have hSame (hOutlet : next.outlet.accepted = connection.outlet.accepted) :
            (cluster.perform event).accepted index = cluster.accepted index := by
          rw [accepted, accepted, hNext, hConnection]
          exact hOutlet
        generalize hCalls : callsIn index cluster event = calls at hTurn
        generalize hOutlet : next.outlet = outlet at hTurn hSame
        cases hTurn with
        | waits => exact .inl (hSame rfl)
        | unstalls hSocket =>
            refine .inl (hSame ?_)
            rw [hSocket]
            exact Socket.accepted_unstall _
        | @answers call _ _ hAnswered hCall =>
            have hMem : call ∈ callsIn index cluster event := by
              rw [hCalls]
              exact List.mem_singleton_self call
            rcases caller_cases hMem hHome with hShutdown | ⟨buffer, hClaim⟩
            · refine .inl (hSame ?_)
              rw [hShutdown] at hCall
              exact Outlet.accepted_shutdown hCall
            · obtain ⟨-, -, rfl, -⟩ := callsIn_cases hMem
              exact .inr ⟨call.caller, buffer, rfl, hClaim⟩
      · refine .inl ?_
        rw [show cluster.enact (.use event) = cluster by simp [enact, Deed.events, hUse, run]]

end Cluster

end ConfigExchange
