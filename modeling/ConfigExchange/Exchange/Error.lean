import ConfigExchange.Connection.Error
import ConfigExchange.Frame
import ConfigExchange.Message

/-! Why an exchange of messages came to nothing. -/
namespace ConfigExchange

/-- Why a message was not sent. -/
inductive SendError where
  | encode (error : EncodeError)
  | connection (error : ConnectionError)
  deriving DecidableEq

/-- Why no reply was sent. That the recipient cannot be reached is not among the reasons. -/
inductive ReplyError where
  /-- The sender has sent its one reply before. -/
  | alreadySent (recipient : Member)
  | cancelled (reason : String)
  | serialization (error : EncodeError)
  | io (recipient : Member) (error : ConnectionError)
  deriving DecidableEq

namespace ReplyError

def message : ReplyError → String
  | alreadySent recipient =>
    let name := recipient.text
    s!"reply to {name} was already sent"
  | cancelled reason => s!"reply aborted because cancellation is in progress: {reason}"
  | serialization _ => "reply could not be serialized"
  | io recipient _ =>
    let name := recipient.text
    s!"failed to send reply to {name}"

/-- The messages of the errors behind an error. -/
def causes : ReplyError → List String
  | alreadySent _ | cancelled _ => []
  | serialization error => [error.message]
  | io _ error => error.message :: error.causes

end ReplyError

/-- Why a request was not answered, or its answer not obtained. -/
inductive ExchangeError where
  | frame (error : FrameError)
  | decode (error : DecodeError)
  | encode (error : EncodeError)
  | connection (error : ConnectionError)
  | reply (error : ReplyError)
  | unexpectedMessage (expected received : MessageKind)
  /-- The answer is for another processor than the one that asks. -/
  | processorMismatch (expected received : UInt32)
  | handshakeTimeout (waited : Micros)
  deriving DecidableEq

namespace ExchangeError

def message : ExchangeError → String
  | frame error => error.message
  | decode error => error.message
  | encode error => error.message
  | connection error => error.message
  | reply error => error.message
  | unexpectedMessage expected received =>
    let due := expected.text
    let found := received.text
    s!"expected a {due} message but received {found}"
  | processorMismatch expected received =>
    let due := expected.toNat
    let found := received.toNat
    s!"response for processor {found} does not match request {due}"
  | handshakeTimeout waited =>
    let span := waited.text
    s!"version handshake timed out after {span}"

/-- The messages of the errors behind an error. -/
def causes : ExchangeError → List String
  | connection error => error.causes
  | reply error => error.causes
  | _ => []

end ExchangeError

end ConfigExchange
