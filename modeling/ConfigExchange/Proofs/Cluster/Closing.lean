import ConfigExchange.Proofs.Cluster.Trace

/-! Closing a connection. The mark comes before the lock, so writers may be anywhere when it is set.
Who has the lock by then may finish; nobody else comes to write, and the stream is shut down once,
by the one who set the mark. -/
namespace ConfigExchange

/-- What becomes of a writer that has not begun when its connection is closed. -/
inductive WriterStage.Refused (remote : Member) : WriterStage → Prop where
  | starting : Refused remote .starting
  | refused : Refused remote (.finished (.error (.closed remote)))
  | dropped : Refused remote .dropped

/-- What becomes of a closer that comes when the connection is closed already. -/
inductive ClosingStage.Needless : ClosingStage → Prop where
  | starting : Needless .starting
  | done : Needless (.finished (.ok ()))
  | dropped : Needless .dropped

section Turns

variable {id : SessionId} {connection next : Connection}

theorem WriterTurn.closed {stage last : WriterStage}
    (hTurn : WriterTurn id connection stage next last) : next.closed = connection.closed := by
  cases hTurn <;> rfl

/-- A closer that comes to wait for the lock has marked the connection just now. -/
theorem ClosingTurn.mark {stage last : ClosingStage}
    (hTurn : ClosingTurn id connection stage next last) :
    connection.closed = false ∧ next.closed = true ∨
      next.closed = connection.closed ∧ last ≠ .queued := by
  cases hTurn with
  | marks hOpen => exact .inl ⟨hOpen, rfl⟩
  | late | shuts | leaves | quits => exact .inr ⟨rfl, nofun⟩

/-- On a closed connection no writer comes to have it to itself. -/
theorem WriterTurn.barred {stage last : WriterStage}
    (hTurn : WriterTurn id connection stage next last) (hClosed : connection.closed = true)
    (hStage : stage.holds = false) : last.holds = false := by
  cases hTurn with
  | asks _ hOpen => cases hClosed.symm.trans hOpen
  | queues | completes | breaks => rfl
  | gets | fills | flushes | sends => cases hStage
  | leaves _ hLast | quits _ hLast => cases hLast <;> rfl

theorem WriterTurn.refused {stage last : WriterStage}
    (hTurn : WriterTurn id connection stage next last) (hClosed : connection.closed = true)
    (hStage : stage.Refused connection.remote) : last.Refused connection.remote := by
  cases hTurn with
  | queues hOpen => cases hClosed.symm.trans hOpen
  | leaves hUses => cases hStage <;> cases hUses
  | quits _ hLast =>
      cases hLast with
      | drops => exact .dropped
      | late => exact .refused
      | _ => cases hStage
  | _ => cases hStage

/-- A writer that waits for the lock of a closed connection goes on to wait, or fails. -/
theorem WriterTurn.queued {alarm : Alarm} {last : WriterStage}
    (hTurn : WriterTurn id connection (.queued alarm) next last)
    (hClosed : connection.closed = true) : last.Failed := by
  cases hTurn with
  | asks _ hOpen => cases hClosed.symm.trans hOpen
  | leaves _ hLast | quits _ hLast => exact hLast.failed

theorem ClosingTurn.needless {stage last : ClosingStage}
    (hTurn : ClosingTurn id connection stage next last) (hClosed : connection.closed = true)
    (hStage : stage.Needless) : last.Needless := by
  cases hTurn with
  | late => exact .done
  | marks hOpen => cases hClosed.symm.trans hOpen
  | shuts => cases hStage
  | leaves | quits => exact .dropped

end Turns

section Turn

variable {index : Nat} {before after : Cluster} {connection next : Connection}
  {subject : Option SessionId}

namespace Cluster

/-- A mark is not taken away. -/
theorem Turn.closed (hTurn : Turn index before after connection subject next)
    (hClosed : connection.closed = true) : next.closed = true := by
  cases hTurn with
  | still | arrives | comes | unstalls => exact hClosed
  | closes _ _ _ hClosing => exact hClosing.mark.elim (·.2) fun hSame => hSame.1.trans hClosed
  | writes _ _ _ hWriter => exact hWriter.closed.trans hClosed

/-- A closer waits already, or it has marked the connection just now. -/
theorem Turn.queued (hTurn : Turn index before after connection subject next) {id : SessionId}
    (hCloser : after.closer? index id = some .queued) :
    before.closer? index id = some .queued ∨
      subject = some id ∧ connection.closed = false ∧ next.closed = true := by
  rcases hTurn.closer_cases hCloser with hSame | ⟨-, -, hStarting⟩ | ⟨stage, hOwn, -, hClosing⟩
  · exact .inl hSame
  · cases hStarting
  · exact .inr ⟨hOwn, hClosing.mark.resolve_right fun hSame => hSame.2 rfl⟩

theorem Turn.queued_of_closed (hTurn : Turn index before after connection subject next)
    (hClosed : connection.closed = true) {id : SessionId}
    (hCloser : after.closer? index id = some .queued) :
    before.closer? index id = some .queued := by
  refine (hTurn.queued hCloser).resolve_right fun hMark => ?_
  cases hClosed.symm.trans hMark.2.1

end Cluster

end Turn

open Cluster

/-! ### The shutdown -/

/-- What a connection, those who use it, and the calls made so far say of each other. -/
structure Quiet (connection : Connection) (stages : SessionId → Option WriterStage)
    (closers : SessionId → Option ClosingStage) (calls : List Call) : Prop where
  held : Held stages connection.lock
  /-- On a connection that is not marked, nobody is about to shut the stream down. -/
  unmarked : connection.closed = false →
    (∀ id, closers id ≠ some .queued) ∧ ∀ call ∈ calls, call.call ≠ .shutdown
  single : ∀ id other, closers id = some .queued → closers other = some .queued → other = id
  /-- After a shutdown nobody writes, and only the one who made it may make it again. -/
  shut : ∀ call ∈ calls, call.call = .shutdown →
    (∀ id stage, stages id = some stage → stage.holds = false) ∧
      ∀ id, closers id = some .queued → id = call.caller

namespace Quiet

variable {index : Nat} {before after : Cluster} {connection next : Connection} {calls : List Call}
  {subject : Option SessionId}

theorem marked (hQuiet : Quiet connection (before.stage? index) (before.closer? index) calls)
    {call : Call} (hCall : call ∈ calls) (hShut : call.call = .shutdown) :
    connection.closed = true := by
  cases hClosed : connection.closed with
  | true => rfl
  | false => exact absurd hShut ((hQuiet.unmarked hClosed).2 call hCall)

/-- Whoever waits to shut the stream down has marked the connection. -/
theorem marked_of_queued
    (hQuiet : Quiet connection (before.stage? index) (before.closer? index) calls)
    {id : SessionId} (hCloser : before.closer? index id = some .queued) :
    connection.closed = true := by
  cases hClosed : connection.closed with
  | true => rfl
  | false => exact absurd hCloser ((hQuiet.unmarked hClosed).1 id)

/-- A call may be noted before it has any effect. -/
theorem note (hQuiet : Quiet connection (before.stage? index) (before.closer? index) calls)
    (hConnection : before.connections[index]? = some connection) {event : Event} {call : Call}
    (hCall : call ∈ callsIn index before event) :
    Quiet connection (before.stage? index) (before.closer? index) (calls ++ [call]) := by
  obtain ⟨found, hFound, -, -, -, hCaller⟩ := callsIn_cases hCall
  cases hConnection.symm.trans hFound
  -- A call that shuts the stream down is one of a closer that has the lock.
  have hCloser : call.call = .shutdown → before.closer? index call.caller = some .queued ∧
      connection.lock.holder = some call.caller := by
    intro hShut
    rcases hCaller with ⟨buffer, rest, pool, -, hNext, -⟩ | ⟨hCloser, -, hLock⟩
    · rw [hShut] at hNext
      rcases rest.next_cases with ⟨-, hFlush⟩ | ⟨bytes, tail, -, hWrite, -⟩
      · cases hNext.trans hFlush
      · cases hNext.trans hWrite
    · exact ⟨hCloser, hLock⟩
  refine ⟨hQuiet.held, fun hOpen => ⟨(hQuiet.unmarked hOpen).1, ?_⟩, hQuiet.single, ?_⟩
  · intro other hOther hShut
    rcases List.mem_append.1 hOther with hOld | hNew
    · exact (hQuiet.unmarked hOpen).2 other hOld hShut
    · cases List.mem_singleton.1 hNew
      exact (hQuiet.unmarked hOpen).1 _ (hCloser hShut).1
  · intro other hOther hShut
    rcases List.mem_append.1 hOther with hOld | hNew
    · exact hQuiet.shut other hOld hShut
    · cases List.mem_singleton.1 hNew
      obtain ⟨hQueued, hLock⟩ := hCloser hShut
      refine ⟨fun id stage hStage => ?_, fun id hId => hQuiet.single _ _ hQueued hId⟩
      cases hHolds : stage.holds with
      | false => rfl
      | true =>
          have hHolder := hQuiet.held id stage hStage hHolds
          cases hLock.symm.trans hHolder
          cases hQueued.symm.trans (closer?_of_stage? hStage)

theorem turn (hQuiet : Quiet connection (before.stage? index) (before.closer? index) calls)
    (hTurn : Turn index before after connection subject next) :
    Quiet next (after.stage? index) (after.closer? index) calls := by
  refine ⟨hQuiet.held.turn hTurn, ?_, ?_, ?_⟩
  · intro hOpen
    have hBefore : connection.closed = false := by
      cases hClosed : connection.closed with
      | false => rfl
      | true => cases hOpen.symm.trans (hTurn.closed hClosed)
    refine ⟨fun id hCloser => ?_, (hQuiet.unmarked hBefore).2⟩
    rcases hTurn.queued hCloser with hSame | ⟨-, -, hMark⟩
    · exact (hQuiet.unmarked hBefore).1 id hSame
    · cases hOpen.symm.trans hMark
  · intro id other hId hOther
    rcases hTurn.queued hId with hBefore | ⟨hOwn, hOpen, -⟩
    · exact hQuiet.single id other hBefore
        (hTurn.queued_of_closed (hQuiet.marked_of_queued hBefore) hOther)
    · -- Whoever marks the connection is the first to wait to shut it down.
      rcases hTurn.queued hOther with hBefore | ⟨hOwn', -, -⟩
      · exact absurd hBefore ((hQuiet.unmarked hOpen).1 other)
      · exact Option.some_inj.1 (hOwn'.symm.trans hOwn)
  · intro call hCall hShut
    have hClosed := hQuiet.marked hCall hShut
    obtain ⟨hStages, hClosers⟩ := hQuiet.shut call hCall hShut
    refine ⟨fun id stage hStage => ?_,
      fun id hCloser => hClosers id (hTurn.queued_of_closed hClosed hCloser)⟩
    rcases hTurn.stage_cases hStage with hSame | ⟨-, -, rfl⟩ | ⟨found, -, hFound, hWriter⟩
    · exact hStages id stage hSame
    · rfl
    · exact hWriter.barred hClosed (hStages id found hFound)

end Quiet

/-- What may follow on a call. On a shutdown nothing follows, but the same once more if it was kept
waiting. -/
def Call.Yields (earlier later : Call) : Prop :=
  earlier.call = .shutdown →
    later.call = .shutdown ∧ later.caller = earlier.caller ∧ earlier.answered = false

namespace Cluster

variable {index : Nat} {start before cluster : Cluster} {connection : Connection}
  {calls : List Call}

/-- What holds of a connection and of the calls on its stream all the time. -/
structure Quieted (index : Nat) (cluster : Cluster) (connection : Connection) (calls : List Call) :
    Prop where
  present : cluster.connections[index]? = some connection
  quiet : Quiet connection (cluster.stage? index) (cluster.closer? index) calls
  /-- Once a shutdown has come to an end there is nobody to make another. -/
  ended : ∀ call ∈ calls, call.call = .shutdown → call.answered = true →
    ∀ id, cluster.closer? index id ≠ some .queued
  order : calls.Pairwise Call.Yields

/-- A call may follow on those before. -/
theorem Quieted.yields (hQuieted : Quieted index cluster connection calls) {event : Event}
    {earlier later : Call} (hEarlier : earlier ∈ calls)
    (hLater : later ∈ callsIn index cluster event) : earlier.Yields later := by
  intro hShut
  obtain ⟨found, -, -, -, -, hCaller⟩ := callsIn_cases hLater
  obtain ⟨hStages, hClosers⟩ := hQuieted.quiet.shut earlier hEarlier hShut
  rcases hCaller with ⟨buffer, rest, pool, hStage, -⟩ | ⟨hCloser, hCall, -⟩
  · cases hStages _ _ hStage
  · refine ⟨hCall, hClosers _ hCloser, ?_⟩
    cases hAnswered : earlier.answered with
    | false => rfl
    | true => exact absurd hCloser (hQuieted.ended earlier hEarlier hShut hAnswered _)

/-- A closer whose shutdown comes to an end does not wait any longer. -/
theorem closer?_perform_shutdown (hConnection : cluster.connections[index]? = some connection)
    {event : Event} {call : Call} (hCall : call ∈ callsIn index cluster event)
    (hCloser : cluster.closer? index call.caller = some .queued)
    (hAnswered : call.answered = true) :
    (cluster.perform event).closer? index call.caller ≠ some .queued := by
  obtain ⟨found, hFound, rfl, -, hAnswer, hCaller⟩ := callsIn_cases hCall
  cases hConnection.symm.trans hFound
  rcases hCaller with ⟨buffer, rest, pool, hStage, -⟩ | ⟨-, hShut, hLock⟩
  · cases hCloser.symm.trans (closer?_of_stage? hStage)
  · rw [hShut] at hAnswer
    have hShutdown : connection.outlet.call cluster.channels .shutdown = (call.answer, _, _) :=
      Prod.ext hAnswer.symm rfl
    rcases step_shutting hConnection hCloser hLock hShutdown with
      ⟨hPending, -⟩ | ⟨after, next, result, -, hStep, -, -, hLast⟩
    · simp [Call.answered, hPending] at hAnswered
    · rw [perform_step_of_some hStep, hLast]
      rintro ⟨⟩

theorem Quieted.perform (hQuieted : Quieted index cluster connection calls) (event : Event) :
    ∃ next, Quieted index (cluster.perform event) next
      (calls ++ callsIn index cluster event) := by
  obtain ⟨next, hNext, hTurn⟩ := turn_perform hQuieted.present event
  have hEnded : ∀ call ∈ calls, call.call = .shutdown → call.answered = true →
      ∀ id, (cluster.perform event).closer? index id ≠ some .queued := by
    intro call hCall hShut hAnswered id hCloser
    have hClosed := hQuieted.quiet.marked hCall hShut
    exact hQuieted.ended call hCall hShut hAnswered id (hTurn.queued_of_closed hClosed hCloser)
  rcases hCalls : callsIn index cluster event with _ | ⟨call, others⟩
  · rw [List.append_nil]
    exact ⟨next, hNext, hQuieted.quiet.turn hTurn, hEnded, hQuieted.order⟩
  · have hMem : call ∈ callsIn index cluster event := by simp [hCalls]
    obtain ⟨-, -, -, hOnly, -⟩ := callsIn_cases hMem
    rw [← hCalls, hOnly]
    have hNoted := hQuieted.quiet.note hQuieted.present hMem
    refine ⟨next, hNext, hNoted.turn hTurn, ?_, ?_⟩
    · intro other hOther hShut hAnswered id hCloser
      rcases List.mem_append.1 hOther with hOld | hNew
      · exact hEnded other hOld hShut hAnswered id hCloser
      · cases List.mem_singleton.1 hNew
        have hLast : call ∈ calls ++ [call] := by simp
        have hBefore := hTurn.queued_of_closed (hNoted.marked hLast hShut) hCloser
        cases (hNoted.shut call hLast hShut).2 id hBefore
        exact closer?_perform_shutdown hQuieted.present hMem hBefore hAnswered hCloser
    · refine List.pairwise_append.2 ⟨hQuieted.order, List.pairwise_singleton _ _, ?_⟩
      intro earlier hEarlier later hLater
      cases List.mem_singleton.1 hLater
      exact hQuieted.yields hEarlier hMem

theorem Pristine.quieted (hPristine : Pristine index start) (events : List Event) :
    ∃ connection, Quieted index (start.run events) connection (start.streamCalls index events) := by
  induction events using List.reverseRecOn with
  | nil =>
      obtain ⟨connection, script, hConnection, -, hLock, hOpen⟩ := hPristine.connection
      have hNoWriter : ∀ {id stage}, start.stage? index id ≠ some stage := by
        intro id stage hStage
        cases (hPristine.writers id).symm.trans hStage
      have hNoCloser : ∀ {id stage}, start.closer? index id ≠ some stage := by
        intro id stage hStage
        cases (hPristine.closers id).symm.trans hStage
      exact ⟨connection, hConnection, ⟨fun id stage hStage => absurd hStage hNoWriter,
        fun _ => ⟨fun _ => hNoCloser, nofun⟩, fun id other hId => absurd hId hNoCloser, nofun⟩,
        nofun, .nil⟩
  | append_singleton events event ih =>
      obtain ⟨connection, hQuieted⟩ := ih
      obtain ⟨next, hNext⟩ := hQuieted.perform event
      rw [run_concat, Cluster.streamCalls, gather_concat]
      exact ⟨next, hNext⟩

/-- The socket has counted one shutdown at most. -/
theorem Quieted.shutdowns (hQuieted : Quieted index cluster connection calls) {socket : Socket}
    (hCounted : socket.Counted calls) : socket.shutdownCalls ≤ 1 := by
  rw [hCounted.shutdowns, List.countP_eq_length_filter, length_filter_le_one_iff]
  refine hQuieted.order.imp fun {earlier later} hYields hEarlier hLater => ?_
  simp only [Bool.and_eq_true] at hEarlier
  have hShut : earlier.call = .shutdown := by
    cases hCall : earlier.call <;> simp [hCall, SocketCall.isShutdown] at hEarlier ⊢
  cases hEarlier.1.symm.trans (hYields hShut).2.2

/-! ### After the mark -/

/-- What has become of a connection that was closed in `marked`, and of those who came to it or
waited for it then. -/
structure Rests (index : Nat) (remote : Member) (marked last : Cluster) (calls : List Call) :
    Prop where
  closed : ∃ connection, last.connections[index]? = some connection ∧ connection.closed = true ∧
    connection.remote = remote
  /-- A writer that had not begun by then has not come far. -/
  writers : ∀ id stage, last.stage? index id = some stage →
    marked.stage? index id = none ∨ marked.stage? index id = some .starting →
    stage.Refused remote
  /-- A writer that waited for the lock still waits, or has failed. -/
  waiting : ∀ id alarm, marked.stage? index id = some (.queued alarm) →
    ∃ stage, last.stage? index id = some stage ∧ (stage = .queued alarm ∨ stage.Failed)
  /-- A closer that had not begun by then has nothing to do. -/
  closers : ∀ id stage, last.closer? index id = some stage →
    marked.closer? index id = none ∨ marked.closer? index id = some .starting → stage.Needless
  queued : ∀ id, last.closer? index id = some .queued → marked.closer? index id = some .queued
  /-- All calls are those of writers, and of the closer that waited then. -/
  callers : ∀ call ∈ calls, (∃ stage, last.stage? index call.caller = some stage) ∨
    marked.closer? index call.caller = some .queued

namespace Rests

variable {remote : Member} {marked last : Cluster}

theorem of_closed (hConnection : marked.connections[index]? = some connection)
    (hClosed : connection.closed = true) :
    Rests index connection.remote marked marked [] := by
  refine ⟨⟨connection, hConnection, hClosed, rfl⟩, ?_, ?_, ?_, fun id hCloser => hCloser, nofun⟩
  · intro id stage hStage hLate
    rcases hLate with hNone | hStarting
    · cases hNone.symm.trans hStage
    · cases hStarting.symm.trans hStage
      exact .starting
  · exact fun id alarm hStage => ⟨_, hStage, .inl rfl⟩
  · intro id stage hStage hLate
    rcases hLate with hNone | hStarting
    · cases hNone.symm.trans hStage
    · cases hStarting.symm.trans hStage
      exact .starting

theorem perform (hRests : Rests index remote marked last calls) (event : Event) :
    Rests index remote marked (last.perform event) (calls ++ callsIn index last event) := by
  obtain ⟨connection, hConnection, hClosed, rfl⟩ := hRests.closed
  obtain ⟨next, hNext, hTurn⟩ := turn_perform hConnection event
  refine ⟨⟨next, hNext, hTurn.closed hClosed, hTurn.remote⟩, ?_, ?_, ?_, ?_, ?_⟩
  · intro id stage hStage hLate
    rcases hTurn.stage_cases hStage with hSame | ⟨-, -, rfl⟩ | ⟨found, -, hFound, hWriter⟩
    · exact hRests.writers id stage hSame hLate
    · exact .starting
    · exact hWriter.refused hClosed (hRests.writers id found hFound hLate)
  · intro id alarm hStage
    obtain ⟨stage, hFound, hWaits⟩ := hRests.waiting id alarm hStage
    obtain ⟨later, hLater, rfl | ⟨-, hWriter⟩⟩ := hTurn.stage_after hFound
    · exact ⟨_, hLater, hWaits⟩
    · refine ⟨later, hLater, .inr ?_⟩
      rcases hWaits with rfl | hFailed
      · exact hWriter.queued hClosed
      · exact hWriter.failed hFailed
  · intro id stage hStage hLate
    rcases hTurn.closer_cases hStage with hSame | ⟨-, -, rfl⟩ | ⟨found, -, hFound, hClosing⟩
    · exact hRests.closers id stage hSame hLate
    · exact .starting
    · exact hClosing.needless hClosed (hRests.closers id found hFound hLate)
  · exact fun id hCloser => hRests.queued id (hTurn.queued_of_closed hClosed hCloser)
  · intro call hCall
    have hStays : ∀ {id}, (∃ stage, last.stage? index id = some stage) →
        ∃ stage, (last.perform event).stage? index id = some stage := by
      rintro id ⟨stage, hStage⟩
      obtain ⟨later, hLater, -⟩ := hTurn.stage_after hStage
      exact ⟨later, hLater⟩
    rcases List.mem_append.1 hCall with hOld | hNew
    · exact (hRests.callers call hOld).imp_left hStays
    · obtain ⟨found, -, -, -, -, hCaller⟩ := callsIn_cases hNew
      rcases hCaller with ⟨buffer, rest, pool, hStage, -⟩ | ⟨hCloser, -⟩
      · exact .inl (hStays ⟨_, hStage⟩)
      · exact .inr (hRests.queued _ hCloser)

theorem run (hConnection : marked.connections[index]? = some connection)
    (hClosed : connection.closed = true) (events : List Event) :
    Rests index connection.remote marked (marked.run events) (marked.streamCalls index events) := by
  induction events using List.reverseRecOn with
  | nil => exact of_closed hConnection hClosed
  | append_singleton events event ih =>
      rw [run_concat, Cluster.streamCalls, gather_concat]
      exact ih.perform event

/-- A closer that came too late makes no call. -/
theorem no_call (hRests : Rests index remote marked last calls) {id : SessionId}
    {stage : ClosingStage} (hStage : last.closer? index id = some stage)
    (hLate : marked.closer? index id = none ∨ marked.closer? index id = some .starting)
    {call : Call} (hCall : call ∈ calls) : call.caller ≠ id := by
  rintro rfl
  rcases hRests.callers call hCall with ⟨found, hWriter⟩ | hQueued
  · cases hStage.symm.trans (closer?_of_stage? hWriter)
  · rcases hLate with hNone | hStarting
    · cases hNone.symm.trans hQueued
    · cases hStarting.symm.trans hQueued

end Rests

/-- A closer that begins leaves a marked connection, whether it set the mark or not. -/
theorem marks_perform {id : SessionId} (hConnection : cluster.connections[index]? = some connection)
    (hStage : cluster.closer? index id = some .starting) :
    ∃ next, (cluster.perform (.step id)).connections[index]? = some next ∧ next.closed = true := by
  have hSession := closer?_eq_some.1 hStage
  cases hClosed : connection.closed with
  | true =>
      obtain ⟨next, hNext, hTurn⟩ := turn_perform hConnection (.step id)
      exact ⟨next, hNext, hTurn.closed hClosed⟩
  | false =>
      simp [perform, step, hSession, hConnection, stepClosing, hClosed, setSession]

/-- A writer that begins on a closed connection ends at once. Nothing changes but the writer. -/
theorem step_refused {id : SessionId} {pool : Pool}
    (hConnection : cluster.connections[index]? = some connection)
    (hClosed : connection.closed = true) (hPool : cluster.pool? connection.site = some pool)
    (hStage : cluster.stage? index id = some .starting) :
    cluster.step id = some (cluster.setSession id
      (.writer index (.finished (.error (.closed connection.remote))))) := by
  simp [step, stage?_eq_some.1 hStage, hConnection, hPool, stepWriter, hClosed, conclude, giveUp]

/-- So does a closer, with success. -/
theorem step_needless {id : SessionId}
    (hConnection : cluster.connections[index]? = some connection)
    (hClosed : connection.closed = true)
    (hStage : cluster.closer? index id = some .starting) :
    cluster.step id = some (cluster.setSession id (.closing index (.finished (.ok ())))) := by
  simp [step, closer?_eq_some.1 hStage, hConnection, stepClosing, hClosed]

/-- Whatever writers and closers do on a connection, in any order, and whatever its socket answers:
the socket is shut down once at most, which may take the same closer several tries while the call is
kept waiting, and after the first try no other call is made. A closer that begins marks the
connection. From then on a writer that had not begun ends with `closed` and has no effect on the
pool, one that waited for the lock never gets any further than that, and a closer that had not begun
succeeds and makes no call. -/
theorem quiet_after_close (hPristine : Pristine index start) (before later : List Event) :
    let marked := start.run before
    let last := marked.run later
    ∃ connection socket, marked.connections[index]? = some connection ∧
      connection.outlet = .socket socket ∧ socket.Counted (start.streamCalls index before) ∧
      socket.shutdownCalls ≤ 1 ∧ (start.streamCalls index before).Pairwise Call.Yields ∧
      (∀ id, marked.closer? index id = some .starting →
        ∃ next, (marked.perform (.step id)).connections[index]? = some next ∧
          next.closed = true) ∧
      (connection.closed = true →
        (∀ id stage, last.stage? index id = some stage →
          marked.stage? index id = none ∨ marked.stage? index id = some .starting →
          stage.Refused connection.remote) ∧
        (∀ id, last.stage? index id = some .starting → ∀ next pool,
          last.connections[index]? = some next → last.pool? next.site = some pool →
          last.step id = some (last.setSession id
            (.writer index (.finished (.error (.closed connection.remote)))))) ∧
        (∀ id alarm, marked.stage? index id = some (.queued alarm) →
          ∃ stage, last.stage? index id = some stage ∧ (stage = .queued alarm ∨ stage.Failed)) ∧
        (∀ id stage, last.closer? index id = some stage →
          marked.closer? index id = none ∨ marked.closer? index id = some .starting →
          stage.Needless ∧ ∀ call ∈ marked.streamCalls index later, call.caller ≠ id) ∧
        ∀ id, last.closer? index id = some .starting →
          last.step id = some (last.setSession id (.closing index (.finished (.ok ()))))) := by
  intro marked last
  obtain ⟨first, script, hFirst, hScript, -⟩ := hPristine.connection
  obtain ⟨connection, socket, hConnection, hOutlet, hCounted⟩ := counted_run hFirst hScript before
  obtain ⟨found, hQuieted⟩ := hPristine.quieted before
  refine ⟨connection, socket, hConnection, hOutlet, hCounted, hQuieted.shutdowns hCounted,
    hQuieted.order, fun id hStage => marks_perform hConnection hStage, fun hClosed => ?_⟩
  have hRests := Rests.run hConnection hClosed later
  obtain ⟨next, hNext, hMarked, hRemote⟩ := hRests.closed
  refine ⟨hRests.writers, fun id hStage other pool hOther hPool => ?_, hRests.waiting,
    fun id stage hStage hLate => ⟨hRests.closers id stage hStage hLate, fun call hCall =>
      hRests.no_call hStage hLate hCall⟩, fun id hStage => step_needless hNext hMarked hStage⟩
  cases hNext.symm.trans hOther
  rw [← hRemote]
  exact step_refused hNext hMarked hPool hStage

/-- A writer has the lock and another waits for it when the connection is marked. The frame of the
first is sent, the second is refused, the shutdown is kept waiting once, and a last closer has
nothing to do. -/
theorem quiet_after_stalled_shutdown :
    let start := Watch.lone { shutdowns := [.stall] }
    let before : List Event :=
      [.openWriter 0, .step 0, .step 0, .step 0, .openWriter 0, .step 1, .close 0, .step 2]
    let later : List Event := [.append 0 [[7]], .flush 0, .step 0, .step 0, .step 0, .step 1,
      .step 2, .unstall 0, .step 2, .close 0, .step 3]
    let calls := start.streamCalls 0 (before ++ later)
    Pristine 0 start ∧
      calls.map (fun call => (call.caller, call.call.isShutdown, call.answered)) =
        [(0, false, true), (0, false, true), (0, false, true), (2, true, false), (2, true, true)] ∧
      calls.Pairwise Call.Yields ∧
      ∃ stage, ((start.run before).run later).stage? 0 1 = some stage ∧
        (stage = .queued ⟨5000000, 2⟩ ∨ stage.Failed) := by
  intro start before later calls
  have hPristine := pristine_lone { shutdowns := [.stall] }
  obtain ⟨-, -, -, -, -, -, hOrder, -⟩ := quiet_after_close hPristine (before ++ later) []
  obtain ⟨connection, socket, hConnection, -, -, -, -, -, hLater⟩ :=
    quiet_after_close hPristine before later
  have hMark : (start.run before).connections[0]?.map (·.closed) = some true := by
    decide +kernel
  rw [hConnection, Option.map_some, Option.some_inj] at hMark
  obtain ⟨-, -, hWaiting, -⟩ := hLater hMark
  exact ⟨hPristine, by decide +kernel, hOrder, hWaiting 1 ⟨5000000, 2⟩ rfl⟩

end Cluster

end ConfigExchange
