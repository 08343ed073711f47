/-! Failures of reading from and writing to a stream. -/
namespace ConfigExchange

/-- What kind of failure a stream reports. -/
inductive IoKind where
  | notFound
  | permissionDenied
  | connectionRefused
  | connectionReset
  | hostUnreachable
  | networkUnreachable
  | connectionAborted
  | notConnected
  | addrInUse
  | addrNotAvailable
  | networkDown
  | brokenPipe
  | alreadyExists
  | wouldBlock
  | invalidInput
  | invalidData
  | timedOut
  | writeZero
  | resourceBusy
  | deadlock
  | interrupted
  | unsupported
  | unexpectedEof
  | outOfMemory
  | other
  deriving DecidableEq

/-- A failure, by its cause. -/
inductive IoError where
  /-- A failure that a script asked for. -/
  | injected (kind : IoKind)
  /-- The stream ended inside something that had been announced. -/
  | earlyEof
  /-- The stream took none of the bytes it was given. -/
  | wroteNothing
  /-- The other end of a channel is gone. -/
  | peerGone
  deriving DecidableEq

namespace IoError

def kind : IoError → IoKind
  | injected kind => kind
  | earlyEof => .unexpectedEof
  | wroteNothing => .writeZero
  | peerGone => .brokenPipe

def message : IoError → String
  | injected _ => "injected"
  | earlyEof => "early eof"
  | wroteNothing => "write zero"
  | peerGone => "broken pipe"

end IoError

end ConfigExchange
