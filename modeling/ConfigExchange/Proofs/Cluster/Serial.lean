import ConfigExchange.Proofs.Cluster.Order

/-! What writers put in their buffers, and what becomes of it. A frame is made of what was put in
the buffer since it was handed out, and as long as no call fails and no write is given up, every
frame that was begun is sent as a whole before another one is. -/
namespace ConfigExchange

open Cluster

/-- Whether a writer that has come this far is still without a buffer, and has failed in nothing. -/
def WriterStage.isBlank : WriterStage → Bool
  | starting | queued _ | awaiting .. => true
  | _ => false

namespace Cluster

/-- What is put in the buffer of a writer in an event. -/
def piecesIn (index : Nat) (id : SessionId) (cluster : Cluster) : Event → List Bytes
  | .append other pieces =>
    match cluster.stage? index id with
    | some (.opened _) => if other = id then pieces else []
    | _ => []
  | _ => []

/-- All that was put in the buffer of a writer along a run. -/
def contents (index : Nat) (cluster : Cluster) (events : List Event) (id : SessionId) : Bytes :=
  (cluster.gather (piecesIn index id) events).flatten

/-- The writer that is given up in an event while it sends its frame. -/
def abandonsIn (index : Nat) (cluster : Cluster) : Event → List SessionId
  | .drop id =>
    match cluster.stage? index id with
    | some (.sending ..) => [id]
    | _ => []
  | _ => []

/-- The writers that were given up along a run while they sent their frames. -/
def abandons (index : Nat) (cluster : Cluster) (events : List Event) : List SessionId :=
  cluster.gather (abandonsIn index) events

variable {before : Cluster} {index : Nat} {id : SessionId} {connection : Connection}
  {buffer later : Buffer}

theorem piecesIn_cases (index : Nat) (id : SessionId) (before : Cluster) (event : Event) :
    piecesIn index id before event = [] ∨ ∃ buffer pieces, event = .append id pieces ∧
      before.stage? index id = some (.opened buffer) ∧
        piecesIn index id before event = pieces := by
  unfold piecesIn
  split
  · next other pieces =>
    split
    · next buffer hStage =>
      by_cases hOther : other = id
      · subst hOther
        exact .inr ⟨buffer, pieces, rfl, hStage, if_pos rfl⟩
      · exact .inl (if_neg hOther)
    · exact .inl rfl
  · exact .inl rfl

theorem piecesIn_eq_nil (hStage : ∀ buffer, before.stage? index id ≠ some (.opened buffer))
    (event : Event) : piecesIn index id before event = [] := by
  refine (piecesIn_cases index id before event).resolve_right ?_
  rintro ⟨buffer, -, -, hOpened, -⟩
  exact hStage buffer hOpened

/-- Pieces go behind what is in the buffer. -/
theorem stage?_append_pieces (hStage : before.stage? index id = some (.opened buffer))
    (pieces : List Bytes) : (before.perform (.append id pieces)).stage? index id =
      some (.opened (buffer.appendAll pieces)) := by
  have hSession := stage?_eq_some.1 hStage
  have hSessions : (before.perform (.append id pieces)).sessions =
      before.sessions.set id (.writer index (.opened (buffer.appendAll pieces))) := by
    simp [perform, append, hSession]
  exact stage?_of_set hSession hSessions

/-- A writer that fills its buffer does nothing else by itself. -/
theorem step_opened (hStage : before.stage? index id = some (.opened buffer)) :
    before.step id = none := by
  simp [step, stage?_eq_some.1 hStage, stepWriter]

/-- A writer that is told to send does not fill its buffer any more. -/
theorem flush_opened (hConnection : before.connections[index]? = some connection)
    (hStage : before.stage? index id = some (.opened buffer)) :
    (before.perform (.flush id)).stage? index id ≠ some (.opened later) := by
  have hSession := stage?_eq_some.1 hStage
  show (before.flush id).stage? index id ≠ _
  rw [flush_eq]
  simp only [hSession, hConnection]
  split
  · rw [stage?_of_set hSession (sessions_conclude ..)]
    rintro ⟨⟩
  · rw [stage?_of_set hSession (sessions_setSession ..)]
    rintro ⟨⟩

/-- A buffer that is filled before and after an event has what was put in it meanwhile. -/
theorem opened_perform (hConnection : before.connections[index]? = some connection)
    {event : Event} (hBefore : before.stage? index id = some (.opened buffer))
    (hAfter : (before.perform event).stage? index id = some (.opened later)) :
    later.bytes = buffer.bytes ++ (piecesIn index id before event).flatten := by
  rcases piecesIn_cases index id before event with hNone | ⟨found, pieces, rfl, -, hPieces⟩
  · rw [hNone, List.flatten_nil, List.append_nil]
    have hSame : (before.perform event).stage? index id = before.stage? index id →
        later.bytes = buffer.bytes := by
      intro hStage
      cases hAfter.symm.trans (hStage.trans hBefore)
      rfl
    by_cases hSubject : event.subject? = some id
    · cases event with
      | step other =>
          cases hSubject
          exact hSame (by rw [perform_step_of_none (step_opened hBefore)])
      | append other pieces =>
          cases hSubject
          have hPieces : pieces = [] := by simpa [piecesIn, hBefore] using hNone
          cases hAfter.symm.trans (stage?_append_pieces hBefore pieces)
          simp [Buffer.appendAll, hPieces]
      | flush other =>
          cases hSubject
          exact absurd hAfter (flush_opened hConnection hBefore)
      | drop other =>
          cases hSubject
          cases hAfter.symm.trans (stage?_drop hBefore)
      | _ => cases hSubject
    · obtain ⟨next, -, hTurn⟩ := turn_perform hConnection event
      obtain ⟨last, hLast, rfl | ⟨hOwn, -⟩⟩ := hTurn.stage_after hBefore
      · exact hSame (hLast.trans hBefore.symm)
      · exact absurd hOwn hSubject
  · rw [hPieces]
    cases hAfter.symm.trans (stage?_append_pieces hBefore pieces)
    rfl

end Cluster

/-- Whoever is without a buffer was so before. -/
theorem WriterTurn.blank {id : SessionId} {connection next : Connection} {stage last : WriterStage}
    (hTurn : WriterTurn id connection stage next last) (hLast : last.isBlank = true) :
    stage.isBlank = true := by
  cases hTurn with
  | queues | asks => rfl
  | gets | fills | flushes | sends | completes | breaks => cases hLast
  | leaves _ hRefusal | quits _ hRefusal => cases hRefusal <;> cases hLast

theorem Cluster.Turn.blank {index : Nat} {before after : Cluster} {connection next : Connection}
    {subject : Option SessionId} {id : SessionId}
    (hTurn : Turn index before after connection subject next)
    (hBlank : ∀ stage, after.stage? index id = some stage → stage.isBlank = true) :
    ∀ stage, before.stage? index id = some stage → stage.isBlank = true := by
  intro stage hStage
  obtain ⟨last, hLast, rfl | ⟨-, hWriter⟩⟩ := hTurn.stage_after hStage
  · exact hBlank _ hLast
  · exact hWriter.blank (hBlank last hLast)

/-- A buffer that is filled was filled before, or has just been handed out. -/
theorem WriterTurn.fill {id : SessionId} {connection next : Connection} {stage : WriterStage}
    {buffer : Buffer} (hTurn : WriterTurn id connection stage next (.opened buffer)) :
    (∃ found, stage = .opened found) ∨ stage.isBlank = true ∧ buffer.bytes = [] := by
  cases hTurn with
  | fills found => exact .inl ⟨found, rfl⟩
  | gets => exact .inr ⟨rfl, rfl⟩
  | leaves _ hRefusal | quits _ hRefusal => cases hRefusal

/-- A writer sends the buffer that it has filled. -/
theorem WriterTurn.flush {id : SessionId} {connection next : Connection} {buffer later : Buffer}
    {rest : FrameSending}
    (hTurn : WriterTurn id connection (.opened buffer) next (.sending later rest)) :
    later = buffer := by
  cases hTurn with
  | flushes => rfl
  | leaves _ hRefusal | quits _ hRefusal => cases hRefusal

/-- Whoever has come to an end can only be given up. -/
theorem WriterTurn.spent {id : SessionId} {connection next : Connection} {stage last : WriterStage}
    (hTurn : WriterTurn id connection stage next last)
    (hStage : stage = .finished (.ok ()) ∨ stage = .dropped) : last = .dropped := by
  cases hTurn with
  | leaves _ hRefusal | quits _ hRefusal =>
      cases hRefusal with
      | drops => rfl
      | _ => rcases hStage with hEq | hEq <;> cases hEq
  | _ => rcases hStage with hEq | hEq <;> cases hEq

namespace Watch

/-- Where an attempt of the log comes from: it was there, it has grown, or it is new. -/
theorem mem_note {index : Nat} {before after : Cluster} {subject : Option SessionId}
    {log : List Attempt} {attempt : Attempt}
    (hMem : attempt ∈ note index before after subject log) :
    attempt ∈ log ∨
      (∃ old buffer rest, old ∈ log ∧ old.writer = attempt.writer ∧
        old.payload = attempt.payload ∧
        before.stage? index attempt.writer = some (.sending buffer rest)) ∨
      ∃ buffer later rest, before.stage? index attempt.writer = some (.opened buffer) ∧
        after.stage? index attempt.writer = some (.sending later rest) ∧
        attempt.payload = later.bytes := by
  cases subject with
  | none => exact .inl hMem
  | some id =>
      unfold note at hMem
      simp only at hMem
      split at hMem
      · next buffer later rest hBefore hAfter =>
        rcases List.mem_append.1 hMem with hOld | hNew
        · exact .inl hOld
        · cases List.mem_singleton.1 hNew
          exact .inr (.inr ⟨buffer, later, rest, hBefore, hAfter, rfl⟩)
      · next buffer rest hBefore =>
        obtain ⟨old, hOld, rfl⟩ := List.mem_map.1 hMem
        by_cases hWriter : old.writer = id
        · simp only [if_pos hWriter]
          exact .inr (.inl ⟨old, buffer, rest, hOld, rfl, rfl, hWriter ▸ hBefore⟩)
        · rw [if_neg hWriter]
          exact .inl hOld
      · exact .inl hMem

end Watch

/-! ### What is sent is what was put in -/

/-- What the writers put in their buffers is in them, and in the log. -/
structure Filled (stages : SessionId → Option WriterStage) (log : List Attempt)
    (contents : SessionId → Bytes) : Prop where
  blank : ∀ id, (∀ stage, stages id = some stage → stage.isBlank = true) → contents id = []
  opened : ∀ id buffer, stages id = some (.opened buffer) → buffer.bytes = contents id
  logged : ∀ attempt ∈ log, attempt.payload = contents attempt.writer

/-- The frame of an attempt is still being sent, or was accepted as a whole. -/
def Settled (stages : SessionId → Option WriterStage) (attempt : Attempt) : Prop :=
  (∃ buffer rest, stages attempt.writer = some (.sending buffer rest)) ∨
    attempt.Whole ∧
      (stages attempt.writer = some (.finished (.ok ())) ∨ stages attempt.writer = some .dropped)

namespace Ledger

variable {stages : SessionId → Option WriterStage} {log : List Attempt} {accepted : Bytes}

/-- The attempt of a writer that succeeded is one with its whole frame. -/
theorem whole_of_finished (hLedger : Ledger stages log accepted) {attempt : Attempt}
    (hAttempt : attempt ∈ log) (hStage : stages attempt.writer = some (.finished (.ok ()))) :
    attempt.Whole := by
  obtain ⟨found, hFound, hWriter, hWhole⟩ := hLedger.succeeded _ hStage
  exact List.inj_on_of_nodup_map hLedger.distinct hFound hAttempt hWriter ▸ hWhole

/-- A writer makes one attempt. -/
theorem filter_writer (hLedger : Ledger stages log accepted) {attempt : Attempt}
    (hAttempt : attempt ∈ log) :
    (log.filter fun other => other.writer = attempt.writer) = [attempt] := by
  obtain ⟨earlier, later, rfl⟩ := List.append_of_mem hAttempt
  have hDistinct := hLedger.distinct
  rw [List.map_append, List.map_cons, List.nodup_middle, List.nodup_cons] at hDistinct
  have hOther : ∀ other ∈ earlier ++ later, other.writer ≠ attempt.writer := by
    intro other hMem hEq
    exact hDistinct.1 (by rw [← List.map_append, ← hEq]; exact List.mem_map_of_mem hMem)
  rw [List.filter_append, List.filter_cons_of_pos (by simp)]
  rw [List.filter_eq_nil_iff.2, List.filter_eq_nil_iff.2, List.nil_append]
  · intro other hMem
    simpa using hOther other (List.mem_append_right _ hMem)
  · intro other hMem
    simpa using hOther other (List.mem_append_left _ hMem)

/-- Where all frames are settled, the log is made of whole frames, and then of the frame that is
being sent. -/
theorem split_settled (hLedger : Ledger stages log accepted)
    (hSettled : ∀ attempt ∈ log, Settled stages attempt) :
    ∃ whole current, log = whole ++ current ∧ (∀ attempt ∈ whole, attempt.Whole) ∧
      (current = [] ∨ ∃ attempt buffer rest, current = [attempt] ∧
        stages attempt.writer = some (.sending buffer rest)) := by
  by_cases hSending : ∃ id buffer rest, stages id = some (.sending buffer rest)
  · obtain ⟨id, buffer, rest, hStage⟩ := hSending
    obtain ⟨earlier, sent, hLog, -⟩ := hLedger.ongoing id buffer rest hStage
    refine ⟨earlier, [⟨id, buffer.bytes, sent⟩], hLog, ?_, .inr ⟨_, buffer, rest, rfl, hStage⟩⟩
    intro attempt hAttempt
    rcases hSettled attempt (by simp [hLog, hAttempt]) with ⟨found, left, hFound⟩ | ⟨hWhole, -⟩
    · -- Whoever sends made the last attempt, and no other.
      obtain ⟨others, count, hLast, -⟩ := hLedger.ongoing _ found left hFound
      have hDistinct := hLedger.distinct
      rw [hLog] at hLast hDistinct
      obtain ⟨-, hEq⟩ := List.append_inj' hLast rfl
      have hWriter : id = attempt.writer := congrArg Attempt.writer (List.singleton_inj.1 hEq)
      rw [List.map_append, List.nodup_append] at hDistinct
      exact absurd hWriter.symm (hDistinct.2.2 _ (List.mem_map_of_mem hAttempt) id (by simp))
    · exact hWhole
  · refine ⟨log, [], (List.append_nil _).symm, fun attempt hAttempt => ?_, .inl rfl⟩
    rcases hSettled attempt hAttempt with ⟨buffer, rest, hStage⟩ | ⟨hWhole, -⟩
    · exact absurd ⟨_, buffer, rest, hStage⟩ hSending
    · exact hWhole

end Ledger

/-- A call of which a sending fails has failed itself. -/
theorem Call.failed_of_resume {call : Call} {rest : FrameSending} {error : IoError}
    (hResume : rest.resume call.answer = .failed error) : call.failed = true := by
  unfold Call.failed
  cases hAnswer : call.answer with
  | accepted count =>
      cases count with
      | zero => rfl
      | succ count =>
          rw [hAnswer] at hResume
          cases hResume
  | failed found => rfl
  | done | pending =>
      rw [hAnswer] at hResume
      cases hResume

namespace Watch

variable {index : Nat} {watch : Watch} {connection : Connection} {socket : Socket}

/-- What is in a buffer after an event was put in it before or in the event. -/
theorem Sound.opened_perform (hSound : Sound index watch connection socket)
    {contents : SessionId → Bytes}
    (hFilled : Filled (watch.cluster.stage? index) watch.log contents) {event : Event}
    {id : SessionId} {buffer : Buffer}
    (hStage : (watch.cluster.perform event).stage? index id = some (.opened buffer)) :
    buffer.bytes = contents id ++ (piecesIn index id watch.cluster event).flatten := by
  have hSame : ∀ {found}, watch.cluster.stage? index id = some (.opened found) →
      buffer.bytes = contents id ++ (piecesIn index id watch.cluster event).flatten := by
    intro found hFound
    rw [← hFilled.opened id found hFound]
    exact Cluster.opened_perform hSound.present hFound hStage
  obtain ⟨next, -, hTurn⟩ := turn_perform hSound.present event
  rcases hTurn.stage_cases hStage with hFound | ⟨-, -, hStarting⟩ | ⟨stage, -, hFound, hWriter⟩
  · exact hSame hFound
  · cases hStarting
  · rcases hWriter.fill with ⟨found, rfl⟩ | ⟨hBlank, hEmpty⟩
    · exact hSame hFound
    · have hBefore : ∀ stage, watch.cluster.stage? index id = some stage →
          stage.isBlank = true := by
        intro found hStage
        cases hFound.symm.trans hStage
        exact hBlank
      rw [hEmpty, hFilled.blank id hBefore, piecesIn_eq_nil fun buffer hOpened => ?_]
      · rfl
      · cases hBefore _ hOpened

/-- What is in the frame of an attempt was put in the buffer before it was sent. -/
theorem Sound.logged_perform (hSound : Sound index watch connection socket)
    {contents : SessionId → Bytes}
    (hFilled : Filled (watch.cluster.stage? index) watch.log contents) {event : Event}
    {attempt : Attempt} (hAttempt : attempt ∈ (watch.perform index event).log) :
    attempt.payload =
      contents attempt.writer ++ (piecesIn index attempt.writer watch.cluster event).flatten := by
  have hBegun : ∀ {stage}, watch.cluster.stage? index attempt.writer = some stage →
      stage.hasBegun = true → piecesIn index attempt.writer watch.cluster event = [] := by
    intro stage hStage hBegun
    refine piecesIn_eq_nil (fun buffer hOpened => ?_) event
    cases hStage.symm.trans hOpened
    cases hBegun
  rcases mem_note hAttempt with hOld | ⟨old, buffer, rest, hOld, hWriter, hPayload, hStage⟩ |
    ⟨buffer, later, rest, hStage, hAfter, hPayload⟩
  · obtain ⟨stage, hStage, hHasBegun⟩ := hSound.ledger.begun attempt hOld
    rw [hBegun hStage hHasBegun, hFilled.logged attempt hOld]
    exact (List.append_nil _).symm
  · rw [hBegun hStage rfl, ← hPayload, hFilled.logged old hOld, hWriter]
    exact (List.append_nil _).symm
  · have hPieces : piecesIn index attempt.writer watch.cluster event = [] := by
      refine (piecesIn_cases index attempt.writer watch.cluster event).resolve_right ?_
      rintro ⟨found, pieces, rfl, hOpened, -⟩
      cases hAfter.symm.trans (stage?_append_pieces hOpened pieces)
    obtain ⟨next, -, hTurn⟩ := turn_perform hSound.present event
    obtain ⟨last, hLast, rfl | ⟨-, hWriter⟩⟩ := hTurn.stage_after hStage
    · cases hLast.symm.trans hAfter
    · cases hLast.symm.trans hAfter
      rw [hPieces, hPayload, hWriter.flush, ← hFilled.opened _ buffer hStage]
      exact (List.append_nil _).symm

theorem Sound.filled_perform (hSound : Sound index watch connection socket)
    {contents : SessionId → Bytes}
    (hFilled : Filled (watch.cluster.stage? index) watch.log contents) (event : Event) :
    Filled ((watch.perform index event).cluster.stage? index) (watch.perform index event).log
      fun id => contents id ++ (piecesIn index id watch.cluster event).flatten := by
  obtain ⟨next, -, hTurn⟩ := turn_perform hSound.present event
  refine ⟨fun id hBlank => ?_, fun id buffer hStage => hSound.opened_perform hFilled hStage,
    fun attempt hAttempt => hSound.logged_perform hFilled hAttempt⟩
  have hBefore := hTurn.blank hBlank
  rw [hFilled.blank id hBefore, piecesIn_eq_nil fun buffer hOpened => ?_]
  · rfl
  · cases hBefore _ hOpened

/-- The frame of a writer that sends stays settled, unless a call fails or the write is given up. -/
theorem Sound.sending_settled (hSound : Sound index watch connection socket) {event : Event}
    (hCalls : ∀ call ∈ callsIn index watch.cluster event, call.failed = false)
    (hAbandons : abandonsIn index watch.cluster event = []) {attempt : Attempt}
    (hAttempt : attempt ∈ (watch.perform index event).log) {buffer : Buffer} {rest : FrameSending}
    (hStage : watch.cluster.stage? index attempt.writer = some (.sending buffer rest)) :
    Settled ((watch.perform index event).cluster.stage? index) attempt := by
  by_cases hSubject : event.subject? = some attempt.writer
  · rcases sending_perform hSound.present hStage event hSubject with
      hSame | rfl | ⟨call, hCall, -, hProgress⟩
    · exact .inl ⟨buffer, rest, hSame⟩
    · simp [abandonsIn, hStage] at hAbandons
    · cases hResume : rest.resume call.answer with
      | going more =>
          rw [hResume] at hProgress
          exact .inl ⟨buffer, more, hProgress⟩
      | complete =>
          rw [hResume] at hProgress
          obtain ⟨_, _, hLater⟩ := hSound.perform event
          exact .inr ⟨hLater.ledger.whole_of_finished hAttempt hProgress, .inl hProgress⟩
      | failed error =>
          cases (hCalls call hCall).symm.trans (Call.failed_of_resume hResume)
  · obtain ⟨next, -, hTurn⟩ := turn_perform hSound.present event
    obtain ⟨last, hLast, rfl | ⟨hOwn, -⟩⟩ := hTurn.stage_after hStage
    · exact .inl ⟨buffer, rest, hLast⟩
    · exact absurd hOwn hSubject

/-- As long as no call fails and no write is given up, every frame that was begun is settled. -/
theorem Sound.settled_perform (hSound : Sound index watch connection socket)
    (hSettled : ∀ attempt ∈ watch.log, Settled (watch.cluster.stage? index) attempt)
    {event : Event} (hCalls : ∀ call ∈ callsIn index watch.cluster event, call.failed = false)
    (hAbandons : abandonsIn index watch.cluster event = []) :
    ∀ attempt ∈ (watch.perform index event).log,
      Settled ((watch.perform index event).cluster.stage? index) attempt := by
  intro attempt hAttempt
  rcases mem_note hAttempt with hOld | ⟨old, buffer, rest, -, -, -, hStage⟩ |
    ⟨buffer, later, rest, -, hAfter, -⟩
  · rcases hSettled attempt hOld with ⟨buffer, rest, hStage⟩ | ⟨hWhole, hOver⟩
    · exact hSound.sending_settled hCalls hAbandons hAttempt hStage
    · obtain ⟨next, -, hTurn⟩ := turn_perform hSound.present event
      refine .inr ⟨hWhole, ?_⟩
      rcases hOver with hStage | hStage
      · obtain ⟨last, hLast, rfl | ⟨-, hWriter⟩⟩ := hTurn.stage_after hStage
        · exact .inl hLast
        · exact .inr (hLast.trans (congrArg some (hWriter.spent (.inl rfl))))
      · obtain ⟨last, hLast, rfl | ⟨-, hWriter⟩⟩ := hTurn.stage_after hStage
        · exact .inr hLast
        · exact .inr (hLast.trans (congrArg some (hWriter.spent (.inr rfl))))
  · exact hSound.sending_settled hCalls hAbandons hAttempt hStage
  · exact .inl ⟨later, rest, hAfter⟩

end Watch

namespace Cluster

variable {start : Cluster} {index : Nat}

theorem contents_concat (events : List Event) (event : Event) (id : SessionId) :
    start.contents index (events ++ [event]) id = start.contents index events id ++
      (piecesIn index id (start.run events) event).flatten := by
  rw [contents, gather_concat, List.flatten_append]
  rfl

theorem Pristine.filled_run (hPristine : Pristine index start) (events : List Event) :
    Filled ((start.run events).stage? index) (Watch.run index ⟨start, []⟩ events).log
      (start.contents index events) := by
  induction events using List.reverseRecOn with
  | nil =>
      refine ⟨fun _ _ => rfl, fun id buffer hStage => ?_, nofun⟩
      cases (hPristine.writers id).symm.trans hStage
  | append_singleton events event ih =>
      obtain ⟨connection, socket, hSound⟩ := hPristine.sound_run events
      have hCluster : (Watch.run index ⟨start, []⟩ events).cluster = start.run events :=
        Watch.cluster_run ..
      have hNext := hSound.filled_perform (hCluster ▸ ih) event
      rw [Watch.run_concat, run_concat, funext (contents_concat events event), ← hCluster]
      exact hNext

/-- As long as no call fails and no write is given up, every frame that was begun is settled. -/
theorem Pristine.settled_run (hPristine : Pristine index start) (events : List Event)
    (hCalls : ∀ call ∈ start.streamCalls index events, call.failed = false)
    (hAbandons : start.abandons index events = []) :
    ∀ attempt ∈ (Watch.run index ⟨start, []⟩ events).log,
      Settled ((start.run events).stage? index) attempt := by
  induction events using List.reverseRecOn with
  | nil => nofun
  | append_singleton events event ih =>
      rw [streamCalls, gather_concat] at hCalls
      rw [abandons, gather_concat, List.append_eq_nil_iff] at hAbandons
      have hBefore := ih (fun call hCall => hCalls call (List.mem_append_left _ hCall))
        hAbandons.1
      obtain ⟨connection, socket, hSound⟩ := hPristine.sound_run events
      have hCluster : (Watch.run index ⟨start, []⟩ events).cluster = start.run events :=
        Watch.cluster_run ..
      rw [← hCluster] at hBefore hCalls hAbandons
      rw [Watch.run_concat, run_concat, ← hCluster]
      exact hSound.settled_perform hBefore
        (fun call hCall => hCalls call (List.mem_append_right _ hCall)) hAbandons.2

end Cluster

end ConfigExchange
