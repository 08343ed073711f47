import ConfigExchange.CodecError
import ConfigExchange.Text

/-! A place in a received message. Reading moves it forward, never past the end; a read for which
too little is left fails and leaves it where it was. -/
namespace ConfigExchange

/-- A place in a message: how many bytes were read, and which are left. -/
structure Cursor where
  position : Nat
  rest : Bytes
  deriving DecidableEq

/-- A step of reading. A failure keeps the place that was reached. -/
abbrev Decoder := EStateM DecodeError Cursor

namespace Cursor

/-- The start of a message. -/
def start (bytes : Bytes) : Cursor := ⟨0, bytes⟩

/-- The next `n` bytes. -/
def take (n : Nat) : Decoder Bytes := fun cursor =>
  let front := cursor.rest.take n
  if front.length = n then .ok front ⟨cursor.position + n, cursor.rest.drop n⟩
  else .error (.truncated n cursor.rest.length) cursor

/-- The next number of `width` bytes. -/
def number (width : Nat) : Decoder Nat := do
  return ofBigEndian (← take width)

def byte : Decoder UInt8 := do
  return UInt8.ofNat (← number 1)

def half : Decoder UInt16 := do
  return UInt16.ofNat (← number 2)

def word : Decoder UInt32 := do
  return UInt32.ofNat (← number 4)

/-- The next length, as wide as the version says. -/
def length (version : Version) : Decoder Nat := number version.lengthWidth

/-- The next bytes with their length before them. -/
def counted (version : Version) : Decoder Bytes := do
  take (← length version)

/-- The next text. -/
def text (version : Version) : Decoder String := do
  match Text.ofUtf8? (← counted version) with
  | some text => return text
  | none => throw .invalidText

/-- The next `count` texts, after those already `read`; the last one comes first. -/
def texts (version : Version) : (count : Nat) → (read : List String) → Decoder (List String)
  | 0, read => pure read
  | count + 1, read => do
    let next ← text version
    texts version count (next :: read)

/-- Nothing may be left. -/
def finish : Decoder Unit := fun cursor =>
  if cursor.rest = [] then .ok () cursor else .error (.trailingBytes cursor.rest.length) cursor

/-- Carries an error of a part over to the message. -/
def ofExcept {α : Type} : Except DecodeError α → Decoder α
  | .ok value => pure value
  | .error error => throw error

end Cursor

/-- What a decoder makes of a whole message. -/
def Decoder.run {α : Type} (decoder : Decoder α) (bytes : Bytes) : Except DecodeError α :=
  match EStateM.run decoder (Cursor.start bytes) with
  | .ok value _ => .ok value
  | .error error _ => .error error

end ConfigExchange
