import ConfigExchange.Configuration.Body
import ConfigExchange.Message

/-! How a message is written: as a list of parts, each of which is one number, one length or one
text with its length before it. Only lengths depend on the version, and only they can fail. -/
namespace ConfigExchange

/-- A part of a message, in the order of the wire. -/
inductive Part where
  /-- A number of fixed width. -/
  | number (width n : Nat)
  /-- How many parts follow. -/
  | count (field : Field) (n : Nat)
  /-- Bytes, with their number before them. -/
  | counted (field : Field) (bytes : Bytes)

namespace Part

/-- The number that goes into the part's length field, if it has one. -/
def length? : Part → Option (Field × Nat)
  | number _ _ => none
  | count field n => some (field, n)
  | counted field bytes => some (field, bytes.length)

/-- The error of a part whose length does not fit. -/
def error? (version : Version) (part : Part) : Option EncodeError :=
  match part.length? with
  | some (field, n) => if n ≤ version.maxLength then none else some (.fieldTooLong field n version)
  | none => none

/-- The byte strings that a part appends, one after the other. -/
def appends (version : Version) : Part → List Bytes
  | number width n => [bigEndian width n]
  | count _ n => [bigEndian version.lengthWidth n]
  | counted _ bytes => [bigEndian version.lengthWidth bytes.length, bytes]

end Part

/-- An attempt to write a value: what it appended, and the error that stopped it, if one did. -/
structure Encoding where
  appends : List Bytes
  error : Option EncodeError

namespace Encoding

/-- The bytes that were appended. -/
def bytes (encoding : Encoding) : Bytes := encoding.appends.flatten

/-- Writes parts in order, up to the first one that does not fit. -/
def ofParts (version : Version) (parts : List Part) : Encoding where
  appends :=
    (parts.takeWhile fun part => (part.error? version).isNone).flatMap (Part.appends version)
  error := parts.findSome? (Part.error? version)

/-- The bytes of a complete encoding. -/
def result (encoding : Encoding) : Except EncodeError Bytes :=
  match encoding.error with
  | some error => .error error
  | none => .ok encoding.bytes

end Encoding

/-- Anything that can be sent: what it writes at each version. -/
abbrev Encodable := Version → Encoding

/-- A value that writes some bytes and then refuses to go on. -/
def Encodable.refusing (bytes : Bytes) (reason : String) : Encodable :=
  fun _ => ⟨[bytes], some (.refused reason)⟩

namespace Outcome

/-- A tag, and what the outcome carries. -/
def parts : Outcome → List Part
  | ready snapshot => [.number 1 0, .counted .snapshot snapshot.toBody]
  | notReady => [.number 1 1]
  | fatal reason => [.number 1 2, .counted .fatalReason (Text.utf8 reason)]
  | failed fault => [.number 1 3, .counted .fault (Text.utf8 fault)]

end Outcome

namespace Message

/-- What follows the version and the kind. -/
def bodyParts : Message → List Part
  | versionRequest ordinal | versionResponse ordinal => [.number 2 ordinal.toNat]
  | configurationRequest processor groups =>
    .number 4 processor.toNat :: .count .groupCount groups.size ::
      groups.names.map fun name => .counted .groupName (Text.utf8 name)
  | configurationResponse processor outcome => .number 4 processor.toNat :: outcome.parts
  | reply processor none => [.number 4 processor.toNat, .number 1 0]
  | reply processor (some fault) =>
    [.number 4 processor.toNat, .number 1 1, .counted .fault (Text.utf8 fault)]

/-- The parts of a message: the version's ordinal, the kind, and the body. -/
def parts (version : Version) (message : Message) : List Part :=
  .number 2 version.ordinal.toNat :: .number 1 message.kind.code.toNat :: message.bodyParts

/-- A message as something that can be sent. -/
def encoding (message : Message) : Encodable :=
  fun version => .ofParts version (message.parts version)

/-- The bytes of a message at a version. -/
def encode (version : Version) (message : Message) : Except EncodeError Bytes :=
  (message.encoding version).result

end Message

end ConfigExchange
