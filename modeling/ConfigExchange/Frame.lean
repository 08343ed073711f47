import ConfigExchange.Stream.Feed
import ConfigExchange.Stream.Socket

/-! Frames: a payload with its length in four bytes before it. -/
namespace ConfigExchange

/-- Number of bytes of the length before a payload. -/
def headerWidth : Nat := 4

/-- The header of a payload of `length` bytes. It has no room for more than the low bytes of a
length that is longer than it can tell. -/
def frameHeader (length : Nat) : Bytes := bigEndian headerWidth length

/-- A payload with its header. -/
def frame (payload : Bytes) : Bytes := frameHeader payload.length ++ payload

/-- How the program is built: its assertions are checked in a debug build only. -/
inductive Build where
  | debug
  | release
  deriving DecidableEq

/-- An assertion that fails. Whoever makes it goes no further. -/
inductive Assertion where
  /-- The length of a payload is one that a header can tell. -/
  | lengthFitsHeader
  deriving DecidableEq

def Assertion.message : Assertion → String
  | lengthFitsHeader => "assertion failed: payload_len <= u32::MAX as usize"

/-- The longest payload whose length a header can tell. -/
def maxHeaderLength : Nat := 4294967295

/-- The header of a payload of `length` bytes, where the assertion about it is made first. -/
def Build.frameHeader : Build → (length : Nat) → Except Assertion Bytes
  | debug, length =>
    if length ≤ maxHeaderLength then .ok (ConfigExchange.frameHeader length)
    else .error .lengthFitsHeader
  | release, length => .ok (ConfigExchange.frameHeader length)

/-- Why no frame was read. -/
inductive FrameError where
  /-- The stream ended before there was a whole header. -/
  | closed
  /-- The header announces more than is admitted. -/
  | tooLarge (length limit : Nat)
  | io (error : IoError)
  deriving DecidableEq

def FrameError.message : FrameError → String
  | closed => "stream closed"
  | tooLarge length limit => s!"frame too large: {length} > {limit}"
  | io error => error.message

end ConfigExchange
