import ConfigExchange.Proofs.Cluster.Basic

/-! What one step of a session does to its connection. Everything that is proved about connections
rests on these two relations and not on the steps themselves. -/
namespace ConfigExchange

open Cluster

/-- Why a writer ends without success while its stream has not failed. -/
inductive WriterRefusal (id : SessionId) (connection : Connection) :
    WriterStage → WriterStage → Prop where
  /-- It is given up. -/
  | drops (stage : WriterStage) : WriterRefusal id connection stage .dropped
  /-- It comes to a connection that is closed. -/
  | late (hClosed : connection.closed = true) :
      WriterRefusal id connection .starting (.finished (.error (.closed connection.remote)))
  /-- The connection was closed before it had the lock. -/
  | closed (hLock : connection.lock.holder = some id) (hClosed : connection.closed = true)
      (alarm : Alarm) :
      WriterRefusal id connection (.queued alarm) (.finished (.error (.closed connection.remote)))
  /-- It was not given the lock in time. -/
  | busy (hLock : connection.lock.holder ≠ some id) (alarm : Alarm) :
      WriterRefusal id connection (.queued alarm)
        (.finished (.error (.writerBusy connection.remote connection.acquireTimeout)))
  | poolClosed (limit : Micros) (alarm : Alarm) :
      WriterRefusal id connection (.awaiting limit alarm) (.finished (.error .poolClosed))
  /-- It was not given a buffer in time. -/
  | exhausted (limit : Micros) (alarm : Alarm) :
      WriterRefusal id connection (.awaiting limit alarm)
        (.finished (.error (.poolExhausted limit)))
  | tooLarge (buffer : Buffer) (hSize : connection.maxMessageSize < buffer.bytes.length) :
      WriterRefusal id connection (.opened buffer)
        (.finished (.error (.messageTooLarge buffer.bytes.length connection.maxMessageSize)))

theorem WriterRefusal.failed {id : SessionId} {connection : Connection} {stage last : WriterStage}
    (hRefusal : WriterRefusal id connection stage last) : last.Failed := by
  cases hRefusal with
  | drops => exact .dropped
  | _ => exact .finished _

/-- What becomes of a connection and of a writer on it, when the writer goes on or is made to. -/
inductive WriterTurn (id : SessionId) (connection : Connection) :
    WriterStage → Connection → WriterStage → Prop where
  /-- It asks for the lock. -/
  | queues (hOpen : connection.closed = false) (alarm : Alarm) :
      WriterTurn id connection .starting { connection with lock := connection.lock.request id }
        (.queued alarm)
  /-- It has the lock, and asks for a buffer. -/
  | asks (hLock : connection.lock.holder = some id) (hOpen : connection.closed = false)
      (alarm : Alarm) (limit : Micros) (next : Alarm) :
      WriterTurn id connection (.queued alarm) connection (.awaiting limit next)
  /-- It is given an empty buffer. -/
  | gets (limit : Micros) (alarm : Alarm) (capacity : Nat) :
      WriterTurn id connection (.awaiting limit alarm) connection (.opened { capacity })
  /-- Bytes are appended to its buffer. -/
  | fills (buffer : Buffer) (pieces : List Bytes) :
      WriterTurn id connection (.opened buffer) connection (.opened (buffer.appendAll pieces))
  /-- It is told to send its buffer. -/
  | flushes (buffer : Buffer) (hSize : buffer.bytes.length ≤ connection.maxMessageSize) :
      WriterTurn id connection (.opened buffer) connection (.sending buffer (.start buffer.bytes))
  /-- A call on the stream comes to an end, and there is more to do. -/
  | sends {buffer : Buffer} {rest next : FrameSending} {channels later : Channels}
      {answer : CallAnswer} {outlet : Outlet}
      (hCall : connection.outlet.call channels rest.next = (answer, outlet, later))
      (hNext : rest.resume answer = .going next) :
      WriterTurn id connection (.sending buffer rest) { connection with outlet }
        (.sending buffer next)
  /-- The last call comes to an end. -/
  | completes {buffer : Buffer} {rest : FrameSending} {channels later : Channels}
      {answer : CallAnswer} {outlet : Outlet}
      (hCall : connection.outlet.call channels rest.next = (answer, outlet, later))
      (hComplete : rest.resume answer = .complete) :
      WriterTurn id connection (.sending buffer rest) ({ connection with outlet }.release id)
        (.finished (.ok ()))
  /-- A call fails. -/
  | breaks {buffer : Buffer} {rest : FrameSending} {channels later : Channels}
      {answer : CallAnswer} {outlet : Outlet} {error : IoError}
      (hCall : connection.outlet.call channels rest.next = (answer, outlet, later))
      (hFailed : rest.resume answer = .failed error) :
      WriterTurn id connection (.sending buffer rest) ({ connection with outlet }.release id)
        (.finished (.error (.ofIo connection.remote error)))
  /-- It ends without success and gives the lock back, or its place in the queue. -/
  | leaves {stage last : WriterStage} (hStage : stage.usesLock = true)
      (hLast : WriterRefusal id connection stage last) :
      WriterTurn id connection stage (connection.release id) last
  /-- It ends with nothing to give back. -/
  | quits {stage last : WriterStage} (hStage : stage.usesLock = false)
      (hLast : WriterRefusal id connection stage last) :
      WriterTurn id connection stage connection last

/-- What becomes of a connection and of one who closes it. -/
inductive ClosingTurn (id : SessionId) (connection : Connection) :
    ClosingStage → Connection → ClosingStage → Prop where
  /-- The connection is closed already. -/
  | late (hClosed : connection.closed = true) :
      ClosingTurn id connection .starting connection (.finished (.ok ()))
  /-- The connection is marked as closed, and the lock is asked for. -/
  | marks (hOpen : connection.closed = false) :
      ClosingTurn id connection .starting
        { connection with closed := true, lock := connection.lock.request id } .queued
  /-- The stream is shut down. -/
  | shuts {channels later : Channels} {answer : CallAnswer} {outlet : Outlet}
      {result : Except ConnectionError Unit} (hLock : connection.lock.holder = some id)
      (hCall : connection.outlet.call channels .shutdown = (answer, outlet, later)) :
      ClosingTurn id connection .queued ({ connection with outlet }.release id) (.finished result)
  /-- It is given up while it has the lock or waits for it. -/
  | leaves : ClosingTurn id connection .queued (connection.release id) .dropped
  /-- It is given up with nothing to give back. -/
  | quits {stage : ClosingStage} (hStage : Session.lockUsed? (.closing 0 stage) = none) :
      ClosingTurn id connection stage connection .dropped

/-- Of a connection only the stream, the lock and the mark ever change. -/
theorem WriterTurn.same {id : SessionId} {connection next : Connection} {stage last : WriterStage}
    (hTurn : WriterTurn id connection stage next last) :
    next = { connection with outlet := next.outlet, lock := next.lock, closed := next.closed } := by
  cases hTurn <;> rfl

theorem ClosingTurn.same {id : SessionId} {connection next : Connection}
    {stage last : ClosingStage} (hTurn : ClosingTurn id connection stage next last) :
    next = { connection with outlet := next.outlet, lock := next.lock, closed := next.closed } := by
  cases hTurn <;> rfl

/-- A writer that failed does not come back. -/
theorem WriterTurn.failed {id : SessionId} {connection next : Connection}
    {stage last : WriterStage} (hTurn : WriterTurn id connection stage next last)
    (hFailed : stage.Failed) : last.Failed := by
  cases hTurn with
  | leaves _ hLast | quits _ hLast => exact hLast.failed
  | _ => cases hFailed

namespace Cluster

variable {cluster after : Cluster} {id : SessionId} {index : Nat} {connection : Connection}

/-- A writer that gives up its stage leaves the lock alone or gives it back. -/
theorem turn_conclude (hConnection : cluster.connections[index]? = some connection)
    {stage last : WriterStage} (hLast : WriterRefusal id connection stage last) :
    ∃ next, WriterTurn id connection stage next last ∧
      Changes cluster (cluster.conclude id (.writer index stage) (.writer index last)) index next id
        (.writer index last) := by
  cases hStage : stage.usesLock with
  | true =>
      refine ⟨_, .leaves hStage hLast, Changes.of_modify (·.release id) hConnection ?_ rfl
        (sessions_conclude ..)⟩
      show (cluster.giveUp id (.writer index stage)).connections = _
      simp [connections_giveUp, Session.lockUsed?, hStage]
  | false =>
      refine ⟨_, .quits hStage hLast, Changes.of_same hConnection ?_ (sessions_conclude ..)⟩
      show (cluster.giveUp id (.writer index stage)).connections = _
      simp [connections_giveUp, Session.lockUsed?, hStage]

/-- A writer that ends after a last call on the stream gives the lock back. -/
theorem changes_conclude (hConnection : cluster.connections[index]? = some connection)
    (channels : Channels) (outlet : Outlet) {old : Session} (hOld : old.lockUsed? = some index)
    (last : Session) :
    Changes cluster ((({ cluster with channels } : Cluster).modifyConnection index fun connection =>
      { connection with outlet }).conclude id old last) index
        ({ connection with outlet }.release id) id last := by
  refine Changes.of_modify (fun connection => { connection with outlet }.release id) hConnection
    ?_ rfl (sessions_conclude ..)
  show (Cluster.giveUp _ id old).connections = _
  rw [connections_giveUp, hOld]
  exact List.modify_modify_eq _ _ _ _

/-- A step of a writer is a turn of it, and touches nothing else. -/
theorem turn_stepWriter {pool : Pool} {stage : WriterStage}
    (hConnection : cluster.connections[index]? = some connection)
    (hStep : cluster.stepWriter id index connection pool stage = some after) :
    ∃ next last, WriterTurn id connection stage next last ∧
      Changes cluster after index next id (.writer index last) := by
  have hFail : ∀ last, WriterRefusal id connection stage last →
      some (cluster.conclude id (.writer index stage) (.writer index last)) = some after →
      ∃ next last, WriterTurn id connection stage next last ∧
        Changes cluster after index next id (.writer index last) := by
    intro last hLast hAfter
    cases hAfter
    obtain ⟨next, hTurn, hChanges⟩ := turn_conclude hConnection hLast
    exact ⟨next, _, hTurn, hChanges⟩
  unfold stepWriter at hStep
  cases stage with
  | starting =>
      simp only at hStep
      split at hStep
      · next hClosed => exact hFail _ (.late hClosed) hStep
      · next hOpen =>
        cases hStep
        exact ⟨_, _, .queues (by simpa using hOpen) _, Changes.of_modify
          (fun connection => { connection with lock := connection.lock.request id })
          hConnection rfl rfl rfl⟩
  | queued alarm =>
      simp only at hStep
      split at hStep
      · next hLock =>
        split at hStep
        · next hClosed => exact hFail _ (.closed hLock hClosed alarm) hStep
        · next hOpen =>
          cases hStep
          exact ⟨_, _, .asks hLock (by simpa using hOpen) alarm _ _,
            Changes.of_same hConnection (connections_modifyPoolOf ..)
              (by rw [sessions_setSession, sessions_modifyPoolOf]; rfl)⟩
      · next hLock =>
        split at hStep
        · exact hFail _ (.busy hLock alarm) hStep
        · cases hStep
  | awaiting limit alarm =>
      simp only at hStep
      split at hStep
      · next buffer found hCollect =>
        cases hStep
        obtain ⟨capacity, rfl⟩ := Pool.collect_buffer hCollect
        exact ⟨_, _, .gets limit alarm capacity, Changes.of_same hConnection
          (connections_modifyPoolOf ..) (by rw [sessions_setSession, sessions_modifyPoolOf])⟩
      · exact hFail _ (.poolClosed limit alarm) hStep
      · split at hStep
        · exact hFail _ (.exhausted limit alarm) hStep
        · cases hStep
  | sending buffer rest =>
      simp only at hStep
      split at hStep
      · cases hStep
      · next answer outlet channels hPending hCall =>
        split at hStep
        · next more hNext =>
          cases hStep
          exact ⟨_, _, .sends hCall hNext, Changes.of_modify
            (fun connection => { connection with outlet }) hConnection rfl rfl rfl⟩
        · next hComplete =>
          cases hStep
          exact ⟨_, _, .completes hCall hComplete, 
            changes_conclude hConnection channels outlet rfl _⟩
        · next error hFailed =>
          cases hStep
          exact ⟨_, _, .breaks hCall hFailed, 
            changes_conclude hConnection channels outlet rfl _⟩
  | opened buffer => cases hStep
  | finished result => cases hStep
  | dropped => cases hStep

/-- A step of a closer is a turn of it, and touches nothing else. -/
theorem turn_stepClosing {stage : ClosingStage}
    (hConnection : cluster.connections[index]? = some connection)
    (hStep : cluster.stepClosing id index connection stage = some after) :
    ∃ next last, ClosingTurn id connection stage next last ∧
      Changes cluster after index next id (.closing index last) := by
  unfold stepClosing at hStep
  cases stage with
  | starting =>
      simp only at hStep
      split at hStep
      · next hClosed =>
        cases hStep
        exact ⟨_, _, .late hClosed, Changes.of_same hConnection rfl rfl⟩
      · next hOpen =>
        cases hStep
        exact ⟨_, _, .marks (by simpa using hOpen), Changes.of_modify
          (fun connection =>
            { connection with closed := true, lock := connection.lock.request id })
          hConnection rfl rfl rfl⟩
  | queued =>
      simp only at hStep
      split at hStep
      · next hLock =>
        split at hStep
        · cases hStep
        · next answer outlet channels hPending hCall =>
          cases hStep
          exact ⟨_, _, .shuts hLock hCall, changes_conclude hConnection channels outlet rfl _⟩
      · cases hStep
  | finished result => cases hStep
  | dropped => cases hStep

/-- A step of a loan leaves every connection alone. -/
theorem turn_stepLoan {site : Nat} {pool : Pool} {stage : LoanStage}
    (hStep : cluster.stepLoan id site pool stage = some after) :
    after.connections = cluster.connections ∧
      ∃ last, after.sessions = cluster.sessions.set id (.loan site last) := by
  have hFail : ∀ error, some (cluster.conclude id (.loan site stage) (.loan site (.failed error))) =
      some after → after.connections = cluster.connections ∧
        ∃ last, after.sessions = cluster.sessions.set id (.loan site last) := by
    intro error hAfter
    cases hAfter
    exact ⟨connections_giveUp .., _, sessions_conclude ..⟩
  unfold stepLoan at hStep
  cases stage with
  | starting limit =>
      cases hStep
      exact ⟨rfl, _, rfl⟩
  | awaiting limit alarm =>
      simp only at hStep
      split at hStep
      · cases hStep
        exact ⟨rfl, _, rfl⟩
      · exact hFail _ hStep
      · split at hStep
        · exact hFail _ hStep
        · cases hStep
  | lent buffer => cases hStep
  | failed error => cases hStep
  | dropped => cases hStep

end Cluster

end ConfigExchange
