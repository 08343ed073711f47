import ConfigExchange.Version

/-! Why a message could not be written or read. -/
namespace ConfigExchange

/-- The parts of a message that carry a length. -/
inductive Field where
  | groupCount
  | groupName
  | snapshot
  | fatalReason
  | fault
  deriving DecidableEq

/-- How a part is named in an error. -/
def Field.text : Field → String
  | groupCount => "group count"
  | groupName => "group name"
  | snapshot => "snapshot"
  | fatalReason => "fatal reason"
  | fault => "fault"

/-- Why a message has no byte form. -/
inductive EncodeError where
  /-- The value itself refuses to be written. -/
  | refused (reason : String)
  /-- The length of a part does not fit the length field of the version. -/
  | fieldTooLong (field : Field) (length : Nat) (version : Version)
  deriving DecidableEq

def EncodeError.message : EncodeError → String
  | refused reason => s!"failed to serialize message: {reason}"
  | fieldTooLong field length version =>
    let name := field.text
    let limit := version.maxLength
    let written := version.text
    s!"{name} is {length} bytes which exceeds the {limit} byte limit of protocol {written}"

/-- Why bytes are not a message. -/
inductive DecodeError where
  /-- A part of `needed` bytes was due, and fewer were left. -/
  | truncated (needed available : Nat)
  | unknownVersion (ordinal : UInt16)
  /-- The message was written with another version than the one agreed on. -/
  | versionMismatch (expected found : Version)
  | unknownKind (value : UInt8)
  | invalidOutcomeTag (tag : UInt8)
  | invalidFaultTag (tag : UInt8)
  /-- A text is not well formed UTF-8. -/
  | invalidText
  /-- The body of a snapshot is not what a snapshot is written as. -/
  | malformedBody
  /-- The body of a snapshot names a group twice. -/
  | duplicateGroup (name : String)
  /-- Bytes were left after the message. -/
  | trailingBytes (count : Nat)
  deriving DecidableEq

def DecodeError.message : DecodeError → String
  | truncated needed available =>
    s!"truncated message: needed {needed} bytes but only {available} available"
  | unknownVersion ordinal => s!"unknown protocol version ordinal {ordinal}"
  | versionMismatch expected found =>
    let written := found.text
    let agreed := expected.text
    s!"message written with protocol version {written} but {agreed} was negotiated"
  | unknownKind value => s!"unknown message kind {value}"
  | invalidOutcomeTag tag => s!"invalid configuration outcome tag {tag}"
  | invalidFaultTag tag => s!"invalid reply fault tag {tag}"
  | invalidText => "string field is not valid utf-8"
  | malformedBody => "malformed message body"
  | duplicateGroup name => s!"malformed message body: duplicate group '{name}'"
  | trailingBytes count => s!"{count} unexpected trailing bytes after message"

/-- The version with a given number, or the error that there is none. -/
def Version.ofOrdinal (ordinal : UInt16) : Except DecodeError Version :=
  match ofOrdinal? ordinal with
  | some version => .ok version
  | none => .error (.unknownVersion ordinal)

/-- The version that two members use: the lower of their newest ones. A peer that is newer than this
build is answered with the newest version known here. -/
def Version.negotiate (own : Version) (peer : UInt16) : Except DecodeError Version :=
  if own.ordinal ≤ peer then .ok own else ofOrdinal peer

end ConfigExchange
