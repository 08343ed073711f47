import ConfigExchange.Connection.Error
import ConfigExchange.Connection.Pool
import ConfigExchange.Frame.Sending

/-! Sessions: whoever uses a connection or the pool, and how far each has come. A session keeps its
state when it waits, so any of them can be taken up again in any order. -/
namespace ConfigExchange

/-- How far a writer has come. -/
inductive WriterStage where
  | starting
  /-- It waits for the lock of its connection until the alarm. -/
  | queued (alarm : Alarm)
  /-- It has the lock, and waits for a buffer for `limit`, that is until the alarm. -/
  | awaiting (limit : Micros) (alarm : Alarm)
  /-- It has the lock and a buffer to fill. -/
  | opened (buffer : Buffer)
  /-- It sends its buffer, of which `rest` is left. -/
  | sending (buffer : Buffer) (rest : FrameSending)
  | finished (result : Except ConnectionError Unit)
  | dropped

/-- How far the closing of a connection has come. -/
inductive ClosingStage where
  | starting
  /-- It waits for the lock and then, with the lock, for the shutdown to be done. -/
  | queued
  | finished (result : Except ConnectionError Unit)
  | dropped

/-- How far the loan of a buffer has come. -/
inductive LoanStage where
  | starting (limit : Micros)
  /-- It waits for a buffer for `limit`, that is until the alarm. -/
  | awaiting (limit : Micros) (alarm : Alarm)
  | lent (buffer : Buffer)
  | failed (error : ConnectionError)
  | dropped

/-- A session: a writer or a closer of a connection, or one who has a buffer on loan from a site. -/
inductive Session where
  | writer (connection : Nat) (stage : WriterStage)
  | closing (connection : Nat) (stage : ClosingStage)
  | loan (site : Nat) (stage : LoanStage)

namespace Session

/-- The buffer a session has. -/
def buffer? : Session → Option Buffer
  | writer _ (.opened buffer) | writer _ (.sending buffer _) | loan _ (.lent buffer) => some buffer
  | _ => none

/-- When a session stops waiting. -/
def alarm? : Session → Option Alarm
  | writer _ (.queued alarm) | writer _ (.awaiting _ alarm) | loan _ (.awaiting _ alarm) =>
    some alarm
  | _ => none

end Session

end ConfigExchange
