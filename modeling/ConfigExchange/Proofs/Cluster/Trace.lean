import ConfigExchange.Proofs.Cluster.Sends
import Mathlib.Data.List.Induction

/-! What is noted along a run: above all the calls that are made on the stream of a connection,
those that are kept waiting included. -/
namespace ConfigExchange

/-- A call on a stream: who made it, what it asked for, and what it was answered. -/
structure Call where
  caller : SessionId
  call : SocketCall
  answer : CallAnswer

namespace Call

/-- Whether the call came to an end. One that was kept waiting is made again. -/
def answered (call : Call) : Bool :=
  match call.answer with
  | .pending => false
  | _ => true

/-- Whether the call failed, or took nothing. -/
def failed (call : Call) : Bool :=
  match call.answer with
  | .accepted 0 | .failed _ => true
  | _ => false

end Call

namespace SocketCall

def isWrite : SocketCall → Bool
  | write _ => true
  | _ => false

def isFlush : SocketCall → Bool
  | flush => true
  | _ => false

def isShutdown : SocketCall → Bool
  | shutdown => true
  | _ => false

end SocketCall

/-- What the calls of one event make of a stream. -/
inductive CallTurn (channels : Channels) (outlet : Outlet) : List Call → Outlet → Prop where
  /-- No call comes to an end. -/
  | waits {calls : List Call} (hWaits : ∀ call ∈ calls, call.answered = false) :
      CallTurn channels outlet calls outlet
  /-- A stalled call may go on. -/
  | unstalls {socket : Socket} (hOutlet : outlet = .socket socket) :
      CallTurn channels outlet [] (.socket socket.unstall)
  | answers {call : Call} {next : Outlet} {later : Channels} (hAnswered : call.answered = true)
      (hCall : outlet.call channels call.call = (call.answer, next, later)) :
      CallTurn channels outlet [call] next

theorem CallTurn.idle (channels : Channels) (outlet : Outlet) :
    CallTurn channels outlet [] outlet :=
  .waits (by simp)

/-- How far a writer has come once it knows what a call made of its frame. -/
def WriterStage.ofProgress (remote : Member) (buffer : Buffer) : SendProgress → WriterStage
  | .going rest => sending buffer rest
  | .complete => finished (.ok ())
  | .failed error => finished (.error (.ofIo remote error))

namespace Cluster

/-- What is noted of the events of a run, one after the other. -/
def gather {α : Type} (note : Cluster → Event → List α) : Cluster → List Event → List α
  | _, [] => []
  | cluster, event :: rest => note cluster event ++ gather note (cluster.perform event) rest

section Gather

variable {α : Type} (note : Cluster → Event → List α)

theorem gather_append (cluster : Cluster) (first second : List Event) :
    gather note cluster (first ++ second) =
      gather note cluster first ++ gather note (cluster.run first) second := by
  induction first generalizing cluster with
  | nil => rfl
  | cons event rest ih =>
      show note cluster event ++ gather note (cluster.perform event) (rest ++ second) = _
      rw [ih, ← List.append_assoc]
      rfl

theorem gather_concat (cluster : Cluster) (events : List Event) (event : Event) :
    gather note cluster (events ++ [event]) =
      gather note cluster events ++ note (cluster.run events) event := by
  rw [gather_append]
  exact congrArg _ (List.append_nil _)

theorem run_append (cluster : Cluster) (first second : List Event) :
    cluster.run (first ++ second) = (cluster.run first).run second := List.foldl_append

theorem run_concat (cluster : Cluster) (events : List Event) (event : Event) :
    cluster.run (events ++ [event]) = (cluster.run events).perform event := run_append ..

end Gather

/-- The call that an event makes on the stream of a connection, if it makes one. -/
def callsIn (index : Nat) (cluster : Cluster) : Event → List Call
  | .step id =>
    match cluster.connections[index]? with
    | none => []
    | some connection =>
      let made (call : SocketCall) : Call :=
        ⟨id, call, (connection.outlet.call cluster.channels call).1⟩
      match cluster.sessions[id]? with
      | some (.writer place (.sending _ rest)) =>
        if place = index ∧ (cluster.pool? connection.site).isSome then [made rest.next] else []
      | some (.closing place .queued) =>
        if place = index ∧ connection.lock.holder = some id then [made .shutdown] else []
      | _ => []
  | _ => []

/-- The calls on the stream of a connection along a run. -/
def streamCalls (index : Nat) (cluster : Cluster) (events : List Event) : List Call :=
  cluster.gather (callsIn index) events

variable {cluster before : Cluster} {index : Nat} {id : SessionId} {connection : Connection}
  {buffer : Buffer} {rest : FrameSending}

/-- Whoever makes a call is a writer that sends its frame, or a closer that has the lock. -/
theorem callsIn_cases {event : Event} {call : Call} (hCall : call ∈ callsIn index cluster event) :
    ∃ connection, cluster.connections[index]? = some connection ∧ event = .step call.caller ∧
      callsIn index cluster event = [call] ∧
      call.answer = (connection.outlet.call cluster.channels call.call).1 ∧
      ((∃ buffer rest pool, cluster.stage? index call.caller = some (.sending buffer rest) ∧
          call.call = rest.next ∧ cluster.pool? connection.site = some pool) ∨
        cluster.closer? index call.caller = some .queued ∧ call.call = .shutdown ∧
          connection.lock.holder = some call.caller) := by
  cases event with
  | step id =>
      unfold callsIn at hCall ⊢
      cases hConnection : cluster.connections[index]? with
      | none =>
          rw [hConnection] at hCall
          cases hCall
      | some connection =>
          rw [hConnection] at hCall
          refine ⟨connection, rfl, ?_⟩
          simp only at hCall ⊢
          split at hCall
          · next place buffer rest hSession =>
            split at hCall
            · next hPlace =>
              obtain ⟨rfl, hPool⟩ := hPlace
              cases List.mem_singleton.1 hCall
              obtain ⟨pool, hPool⟩ := Option.isSome_iff_exists.1 hPool
              refine ⟨rfl, ?_, rfl,
                .inl ⟨buffer, rest, pool, stage?_eq_some.2 hSession, rfl, hPool⟩⟩
              simp [hPool]
            · cases hCall
          · next place hSession =>
            split at hCall
            · next hPlace =>
              obtain ⟨rfl, hLock⟩ := hPlace
              cases List.mem_singleton.1 hCall
              refine ⟨rfl, ?_, rfl, .inr ⟨closer?_eq_some.2 hSession, rfl, hLock⟩⟩
              simp [hLock]
            · cases hCall
          · cases hCall
  | _ => cases hCall

/-- A step of a writer that sends its frame makes a call, and takes up the answer. -/
theorem step_sending {pool : Pool} {answer : CallAnswer} {outlet : Outlet} {channels : Channels}
    (hConnection : cluster.connections[index]? = some connection)
    (hStage : cluster.stage? index id = some (.sending buffer rest))
    (hPool : cluster.pool? connection.site = some pool)
    (hCall : connection.outlet.call cluster.channels rest.next = (answer, outlet, channels)) :
    (answer = .pending ∧ cluster.step id = none) ∨
      ∃ after next, answer ≠ .pending ∧ cluster.step id = some after ∧
        after.connections[index]? = some next ∧ next.outlet = outlet ∧
        after.stage? index id =
          some (.ofProgress connection.remote buffer (rest.resume answer)) := by
  have hSession := stage?_eq_some.1 hStage
  have hStep : cluster.step id =
      cluster.stepWriter id index connection pool (.sending buffer rest) := by
    simp [step, hSession, hConnection, hPool]
  rw [hStep]
  unfold stepWriter
  simp only
  split
  · next hPending =>
    cases hCall.symm.trans hPending
    exact .inl ⟨rfl, rfl⟩
  · next hNot hFound =>
    cases hCall.symm.trans hFound
    refine .inr ?_
    cases hResume : rest.resume answer with
    | going more =>
        refine ⟨_, { connection with outlet }, hNot, rfl, ?_, rfl, stage?_of_set hSession rfl⟩
        exact (Changes.of_modify (fun connection => { connection with outlet }) hConnection rfl rfl
          rfl).here
    | complete =>
        have hChanges := @changes_conclude cluster id index connection hConnection channels outlet
          (.writer index (.sending buffer rest)) rfl (.writer index (.finished (.ok ())))
        exact ⟨_, _, hNot, rfl, hChanges.here, rfl, stage?_of_set hSession hChanges.sessions⟩
    | failed error =>
        have hChanges := @changes_conclude cluster id index connection hConnection channels outlet
          (.writer index (.sending buffer rest)) rfl
          (.writer index (.finished (.error (.ofIo connection.remote error))))
        exact ⟨_, _, hNot, rfl, hChanges.here, rfl, stage?_of_set hSession hChanges.sessions⟩

/-- A step of a closer that has the lock makes a call, and ends if that is answered. -/
theorem step_shutting {answer : CallAnswer} {outlet : Outlet} {channels : Channels}
    (hConnection : cluster.connections[index]? = some connection)
    (hCloser : cluster.closer? index id = some .queued)
    (hLock : connection.lock.holder = some id)
    (hCall : connection.outlet.call cluster.channels .shutdown = (answer, outlet, channels)) :
    (answer = .pending ∧ cluster.step id = none) ∨
      ∃ after next result, answer ≠ .pending ∧ cluster.step id = some after ∧
        after.connections[index]? = some next ∧ next.outlet = outlet ∧
        after.closer? index id = some (.finished result) := by
  have hSession := closer?_eq_some.1 hCloser
  have hStep : cluster.step id = cluster.stepClosing id index connection .queued := by
    simp [step, hSession, hConnection]
  rw [hStep]
  unfold stepClosing
  simp only [hLock, if_true]
  split
  · next hPending =>
    cases hCall.symm.trans hPending
    exact .inl ⟨rfl, rfl⟩
  · next hNot hFound =>
    cases hCall.symm.trans hFound
    have hChanges := @changes_conclude cluster id index connection hConnection channels outlet
      (.closing index .queued) rfl
    exact .inr ⟨_, _, _, hNot, rfl, (hChanges _).here, rfl,
      closer?_of_set hSession (hChanges _).sessions⟩

/-- A session that ends leaves every stream alone. -/
theorem outlet_conclude (id : SessionId) (old last : Session)
    (hConnection : cluster.connections[index]? = some connection) :
    ∃ next, (cluster.conclude id old last).connections[index]? = some next ∧
      next.outlet = connection.outlet := by
  show ∃ next, (cluster.giveUp id old).connections[index]? = some next ∧ _
  rw [connections_giveUp]
  cases old.lockUsed? with
  | none => exact ⟨connection, hConnection, rfl⟩
  | some place =>
      by_cases hPlace : place = index
      · subst hPlace
        exact ⟨connection.release id, by rw [List.getElem?_modify_eq, hConnection]; rfl, rfl⟩
      · exact ⟨connection, by rw [List.getElem?_modify_ne _ _ hPlace, hConnection], rfl⟩

theorem calls_of_step {call : Call} {outlet : Outlet} {channels : Channels}
    (hConnection : before.connections[index]? = some connection)
    (hCall : connection.outlet.call before.channels call.call = (call.answer, outlet, channels))
    (hStep : call.answer = .pending ∧ before.step id = none ∨
      ∃ after next, call.answer ≠ .pending ∧ before.step id = some after ∧
        after.connections[index]? = some next ∧ next.outlet = outlet) :
    ∃ next, (before.perform (.step id)).connections[index]? = some next ∧
      CallTurn before.channels connection.outlet [call] next.outlet := by
  rcases hStep with ⟨hPending, hStep⟩ | ⟨after, next, hAnswered, hStep, hNext, rfl⟩
  · rw [perform_step_of_none hStep]
    exact ⟨connection, hConnection, .waits (by simp [Call.answered, hPending])⟩
  · rw [perform_step_of_some hStep]
    refine ⟨next, hNext, .answers ?_ hCall⟩
    unfold Call.answered
    split
    · next hPending => exact absurd hPending hAnswered
    · rfl

/-- A step that makes no call leaves the stream as it is. -/
theorem outlet_of_no_calls {next : Connection}
    (hConnection : before.connections[index]? = some connection)
    (hCalls : callsIn index before (.step id) = [])
    (hNext : (before.perform (.step id)).connections[index]? = some next)
    (hTurn : Turn index before (before.perform (.step id)) connection (some id) next) :
    next.outlet = connection.outlet := by
  cases hTurn with
  | still => rfl
  | @closes _ _ stage last hNone hStages hClosing hStage =>
      cases hClosing with
      | late | marks | leaves | quits => rfl
      | shuts hLock =>
          simp [callsIn, hConnection, closer?_eq_some.1 hStage, hLock] at hCalls
  | @writes _ _ stage last hStage hStages hWriter =>
      -- A writer that sends makes a call, unless its site has no pool. Then it waits.
      have hWaits : ∀ {buffer rest}, stage = .sending buffer rest →
          next.outlet = connection.outlet := by
        rintro buffer rest rfl
        have hSession := stage?_eq_some.1 hStage
        have hPool : before.pool? connection.site = none := by
          simpa [callsIn, hConnection, hSession] using hCalls
        have hStep : before.step id = none := by
          simp [step, hSession, hConnection, hPool]
        rw [perform_step_of_none hStep] at hNext
        cases hConnection.symm.trans hNext
        rfl
      cases hWriter with
      | sends | completes | breaks => exact hWaits rfl
      | queues | asks | gets | fills | flushes | leaves | quits => rfl

/-- A step makes its call on the stream, and changes it in no other way. -/
theorem calls_step (hConnection : before.connections[index]? = some connection) :
    ∃ next, (before.perform (.step id)).connections[index]? = some next ∧
      CallTurn before.channels connection.outlet (callsIn index before (.step id))
        next.outlet := by
  rcases hCalls : callsIn index before (.step id) with _ | ⟨call, others⟩
  · obtain ⟨next, hNext, hTurn⟩ := turn_perform hConnection (.step id)
    refine ⟨next, hNext, ?_⟩
    rw [outlet_of_no_calls hConnection hCalls hNext hTurn]
    exact .idle ..
  · have hMem : call ∈ callsIn index before (.step id) := by simp [hCalls]
    obtain ⟨found, hFound, hEvent, hOnly, hAnswer, hCaller⟩ := callsIn_cases hMem
    cases hConnection.symm.trans hFound
    obtain ⟨caller, request, answer⟩ := call
    cases hEvent
    rw [← hCalls, hOnly]
    have hCall : connection.outlet.call before.channels request = (answer, _, _) :=
      Prod.ext hAnswer.symm rfl
    refine calls_of_step hConnection hCall ?_
    rcases hCaller with ⟨buffer, rest, pool, hStage, rfl, hPool⟩ | ⟨hCloser, rfl, hLock⟩
    · refine (step_sending hConnection hStage hPool hCall).imp_right ?_
      rintro ⟨after, next, hAnswered, hStep, hHere, hOutlet, -⟩
      exact ⟨after, next, hAnswered, hStep, hHere, hOutlet⟩
    · refine (step_shutting hConnection hCloser hLock hCall).imp_right ?_
      rintro ⟨after, next, result, hAnswered, hStep, hHere, hOutlet, -⟩
      exact ⟨after, next, hAnswered, hStep, hHere, hOutlet⟩

/-- The calls that are noted of an event are what it does to the stream. -/
theorem calls_perform (hConnection : before.connections[index]? = some connection)
    (event : Event) :
    ∃ next, (before.perform event).connections[index]? = some next ∧
      CallTurn before.channels connection.outlet (callsIn index before event) next.outlet := by
  have hSame : ∀ {after : Cluster}, after.connections[index]? = some connection →
      ∃ next, after.connections[index]? = some next ∧
        CallTurn before.channels connection.outlet [] next.outlet :=
    fun hNext => ⟨connection, hNext, .idle ..⟩
  have hConclude : ∀ (id : SessionId) (old last : Session),
      ∃ next, (before.conclude id old last).connections[index]? = some next ∧
        CallTurn before.channels connection.outlet [] next.outlet := by
    intro id old last
    obtain ⟨next, hNext, hOutlet⟩ := outlet_conclude id old last hConnection
    exact ⟨next, hNext, hOutlet ▸ .idle ..⟩
  cases event with
  | step id => exact calls_step hConnection
  | connect site remote version outlet =>
      obtain ⟨hIndex, -⟩ := List.getElem?_eq_some_iff.1 hConnection
      exact hSame ((List.getElem?_append_left hIndex).trans hConnection)
  | openWriter | close | borrow | elsewhere => exact hSame hConnection
  | append id pieces =>
      show ∃ next, (before.append id pieces).connections[index]? = some next ∧ _
      unfold append
      split <;> exact hSame hConnection
  | flush id =>
      show ∃ next, (before.flush id).connections[index]? = some next ∧ _
      rw [flush_eq]
      split
      · split
        · exact hSame hConnection
        · split
          · exact hConclude ..
          · exact hSame hConnection
      · exact hSame hConnection
  | drop id =>
      show ∃ next, (before.drop id).connections[index]? = some next ∧ _
      unfold drop
      split
      · exact hSame hConnection
      · split <;> exact hConclude ..
  | unstall place =>
      show ∃ next, (before.unstall place).connections[index]? = some next ∧ _
      by_cases hPlace : place = index
      · subst hPlace
        cases hOutlet : connection.outlet with
        | socket socket =>
            refine ⟨{ connection with outlet := .socket socket.unstall }, ?_, .unstalls rfl⟩
            simp [unstall, hConnection, hOutlet]
        | channel channel side =>
            exact ⟨connection, by simp [unstall, hConnection, hOutlet], hOutlet ▸ .idle ..⟩
      · exact hSame ((List.getElem?_modify_ne _ _ hPlace).trans hConnection)

/-- A writer that sends its frame goes on doing so, unless it is given up or a call of it is
answered, and then it takes up the answer. -/
theorem sending_perform (hConnection : before.connections[index]? = some connection)
    (hStage : before.stage? index id = some (.sending buffer rest)) (event : Event)
    (hSubject : event.subject? = some id) :
    (before.perform event).stage? index id = some (.sending buffer rest) ∨ event = .drop id ∨
      ∃ call ∈ callsIn index before event, call.caller = id ∧
        (before.perform event).stage? index id =
          some (.ofProgress connection.remote buffer (rest.resume call.answer)) := by
  have hSession := stage?_eq_some.1 hStage
  cases event with
  | append other pieces =>
      cases hSubject
      refine .inl (Eq.trans ?_ hStage)
      simp [perform, append, hSession]
  | flush other =>
      cases hSubject
      refine .inl (Eq.trans ?_ hStage)
      simp [perform, flush_eq, hSession]
  | drop other =>
      cases hSubject
      exact .inr (.inl rfl)
  | step other =>
      cases hSubject
      cases hPool : before.pool? connection.site with
      | none =>
          refine .inl ?_
          rw [perform_step_of_none (by simp [step, hSession, hConnection, hPool])]
          exact hStage
      | some pool =>
          have hCalls : callsIn index before (.step id) =
              [⟨id, rest.next, (connection.outlet.call before.channels rest.next).1⟩] := by
            simp [callsIn, hConnection, hSession, hPool]
          rcases step_sending hConnection hStage hPool rfl with
            ⟨-, hStep⟩ | ⟨after, next, -, hStep, -, -, hLast⟩
          · exact .inl ((perform_step_of_none hStep).symm ▸ hStage)
          · rw [perform_step_of_some hStep, hCalls]
            exact .inr (.inr ⟨_, List.mem_singleton_self _, rfl, hLast⟩)
  | _ => cases hSubject

end Cluster

/-! ### What a socket counts -/

namespace Socket

/-- A socket has counted the calls that came to an end. -/
structure Counted (socket : Socket) (calls : List Call) : Prop where
  writes : socket.writeCalls = calls.countP fun call => call.answered && call.call.isWrite
  flushes : socket.flushCalls = calls.countP fun call => call.answered && call.call.isFlush
  shutdowns : socket.shutdownCalls = calls.countP fun call => call.answered && call.call.isShutdown

theorem counts_unstall (socket : Socket) : socket.unstall.writeCalls = socket.writeCalls ∧
    socket.unstall.flushCalls = socket.flushCalls ∧
    socket.unstall.shutdownCalls = socket.shutdownCalls := by
  unfold unstall
  simp only
  split
  · exact ⟨rfl, rfl, rfl⟩
  · split
    · exact ⟨rfl, rfl, rfl⟩
    · split <;> exact ⟨rfl, rfl, rfl⟩

/-- A call that comes to an end is counted as what it is. -/
theorem counts_call (socket : Socket) (call : SocketCall) {answer : CallAnswer} {later : Socket}
    (hCall : socket.call call = (answer, later)) (hAnswered : answer ≠ .pending) :
    later.writeCalls = socket.writeCalls + (if call.isWrite then 1 else 0) ∧
      later.flushCalls = socket.flushCalls + (if call.isFlush then 1 else 0) ∧
      later.shutdownCalls = socket.shutdownCalls + (if call.isShutdown then 1 else 0) := by
  cases call with
  | write bytes =>
      unfold Socket.call write at hCall
      cases hAction : nextAction socket.script.writes with
      | mk action writes =>
          cases action <;> simp only [hAction, take] at hCall <;> cases hCall <;>
            first | exact absurd rfl hAnswered | exact ⟨rfl, rfl, rfl⟩
  | flush =>
      unfold Socket.call flush at hCall
      cases hAction : nextAction socket.script.flushes with
      | mk action flushes =>
          cases action <;> simp only [hAction] at hCall <;> cases hCall <;>
            first | exact absurd rfl hAnswered | exact ⟨rfl, rfl, rfl⟩
  | shutdown =>
      unfold Socket.call shutdown at hCall
      cases hAction : nextAction socket.script.shutdowns with
      | mk action shutdowns =>
          cases action <;> simp only [hAction] at hCall <;> cases hCall <;>
            first | exact absurd rfl hAnswered | exact ⟨rfl, rfl, rfl⟩

/-- Calls that were kept waiting are not counted. -/
theorem Counted.waits {socket : Socket} {calls made : List Call} (hCounted : socket.Counted calls)
    (hWaits : ∀ call ∈ made, call.answered = false) : socket.Counted (calls ++ made) := by
  have hNone : ∀ sort : SocketCall → Bool,
      made.countP (fun call => call.answered && sort call.call) = 0 := by
    intro sort
    rw [List.countP_eq_zero]
    intro call hCall
    simp [hWaits call hCall]
  obtain ⟨hWrites, hFlushes, hShutdowns⟩ := hCounted
  constructor
  · rw [List.countP_append, hNone, hWrites, Nat.add_zero]
  · rw [List.countP_append, hNone, hFlushes, Nat.add_zero]
  · rw [List.countP_append, hNone, hShutdowns, Nat.add_zero]

/-- A socket counts the calls that are made on it. -/
theorem Counted.turn {socket : Socket} {calls made : List Call} {channels : Channels}
    {next : Outlet} (hCounted : socket.Counted calls)
    (hTurn : CallTurn channels (.socket socket) made next) :
    ∃ later, next = .socket later ∧ later.Counted (calls ++ made) := by
  cases hTurn with
  | waits hWaits => exact ⟨socket, rfl, hCounted.waits hWaits⟩
  | unstalls hOutlet =>
      cases hOutlet
      obtain ⟨hWrites, hFlushes, hShutdowns⟩ := socket.counts_unstall
      rw [List.append_nil]
      exact ⟨_, rfl, hWrites.trans hCounted.writes, hFlushes.trans hCounted.flushes,
        hShutdowns.trans hCounted.shutdowns⟩
  | @answers call next later hAnswered hCall =>
      have hNot : call.answer ≠ .pending := by
        intro hPending
        simp [Call.answered, hPending] at hAnswered
      have hAnswer : (socket.call call.call).1 = call.answer := congrArg (·.1) hCall
      have hLater : Outlet.socket (socket.call call.call).2 = next := congrArg (·.2.1) hCall
      obtain ⟨hWrites, hFlushes, hShutdowns⟩ :=
        socket.counts_call call.call (Prod.ext hAnswer rfl) hNot
      subst hLater
      refine ⟨_, rfl, ?_, ?_, ?_⟩
      · rw [hWrites, hCounted.writes]
        simp [List.countP_append, List.countP_singleton, hAnswered]
      · rw [hFlushes, hCounted.flushes]
        simp [List.countP_append, List.countP_singleton, hAnswered]
      · rw [hShutdowns, hCounted.shutdowns]
        simp [List.countP_append, List.countP_singleton, hAnswered]

end Socket

namespace Cluster

variable {start : Cluster} {index : Nat}

/-- A connection that nobody has come to yet, with a socket on which nothing has happened. -/
structure Pristine (index : Nat) (cluster : Cluster) : Prop where
  connection : ∃ connection script, cluster.connections[index]? = some connection ∧
    connection.outlet = .socket { script } ∧ connection.lock = {} ∧ connection.closed = false
  writers : ∀ id, cluster.stage? index id = none
  closers : ∀ id, cluster.closer? index id = none

theorem pristine_lone (script : SocketScript) : Pristine 0 (Watch.lone script) where
  connection := ⟨_, script, rfl, rfl, rfl, rfl⟩
  writers := fun _ => rfl
  closers := fun _ => rfl

theorem Pristine.fresh (hPristine : Pristine index start) : Watch.Fresh index start := by
  obtain ⟨connection, script, hConnection, hOutlet, -⟩ := hPristine.connection
  exact ⟨⟨connection, script, hConnection, hOutlet⟩, hPristine.writers⟩

theorem Pristine.sound_run (hPristine : Pristine index start) (events : List Event) :
    ∃ connection socket,
      Watch.Sound index (Watch.run index ⟨start, []⟩ events) connection socket := by
  obtain ⟨connection, socket, hSound⟩ := hPristine.fresh.sound
  exact hSound.run events

/-- The calls that are noted along a run are those that the socket counts, and those that it kept
waiting. -/
theorem counted_run {connection : Connection} {script : SocketScript}
    (hConnection : start.connections[index]? = some connection)
    (hOutlet : connection.outlet = .socket { script }) (events : List Event) :
    ∃ connection socket, (start.run events).connections[index]? = some connection ∧
      connection.outlet = .socket socket ∧ socket.Counted (streamCalls index start events) := by
  induction events using List.reverseRecOn with
  | nil => exact ⟨connection, { script }, hConnection, hOutlet, rfl, rfl, rfl⟩
  | append_singleton events event ih =>
      obtain ⟨connection, socket, hConnection, hOutlet, hCounted⟩ := ih
      obtain ⟨next, hNext, hTurn⟩ := calls_perform hConnection event
      rw [hOutlet] at hTurn
      obtain ⟨later, hLater, hCounted⟩ := hCounted.turn hTurn
      refine ⟨next, later, ?_, hLater, ?_⟩
      · rw [run_concat]
        exact hNext
      · rw [streamCalls, gather_concat]
        exact hCounted

end Cluster

end ConfigExchange
