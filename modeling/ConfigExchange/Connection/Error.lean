import ConfigExchange.Duration
import ConfigExchange.Member
import ConfigExchange.Stream.IoError

/-! Why nothing could be written on a connection. -/
namespace ConfigExchange

/-- Why a writer was not obtained, or could not write. -/
inductive ConnectionError where
  | closed (member : Member)
  | poolClosed
  /-- Somebody else held the connection for too long. -/
  | writerBusy (member : Member) (waited : Micros)
  /-- No buffer came back in time. -/
  | poolExhausted (waited : Micros)
  /-- The failure of the stream says that the member cannot be reached over it. -/
  | unreachable (member : Member) (error : IoError)
  | messageTooLarge (length limit : Nat)
  | io (error : IoError)
  deriving DecidableEq

namespace ConnectionError

def message : ConnectionError → String
  | closed member =>
    let name := member.text
    s!"connection to {name} is closed"
  | poolClosed => "buffer pool is closed"
  | writerBusy member waited =>
    let name := member.text
    let span := waited.text
    s!"connection to {name} is still busy writing after {span}"
  | poolExhausted waited =>
    let span := waited.text
    s!"no write buffer became available within {span}"
  | unreachable member _ =>
    let name := member.text
    s!"member {name} is unreachable"
  | messageTooLarge length limit => s!"message too large: {length} bytes (max: {limit})"
  | io error =>
    let inner := error.message
    s!"connection i/o error: {inner}"

/-- The messages of the errors behind an error. -/
def causes : ConnectionError → List String
  | unreachable _ error | io error => [error.message]
  | _ => []

/-- The error of a connection to `member` whose stream failed. -/
def ofIo (member : Member) (error : IoError) : ConnectionError :=
  match error.kind with
  | .brokenPipe | .connectionReset | .connectionAborted | .notConnected | .unexpectedEof =>
    unreachable member error
  | _ => io error

end ConnectionError

end ConfigExchange
