import ConfigExchange.Configuration.Body
import ConfigExchange.Message
import ConfigExchange.Message.Cursor

/-! How a message is read. The version comes first, then the kind, and then the body, which has to
end where the message ends. -/
namespace ConfigExchange

/-- Reads a tag and what it announces. -/
def Outcome.decoder (version : Version) : Decoder Outcome := do
  let tag ← Cursor.byte
  if tag = 0 then
    let body ← Cursor.counted version
    return .ready (← Cursor.ofExcept (Snapshot.ofBody body))
  else if tag = 1 then
    return .notReady
  else if tag = 2 then
    return .fatal (← Cursor.text version)
  else if tag = 3 then
    return .failed (← Cursor.text version)
  else
    throw (.invalidOutcomeTag tag)

namespace Message

/-- Reads the fault of a reply, if its tag announces one. -/
def faultDecoder (version : Version) : Decoder (Option String) := do
  let tag ← Cursor.byte
  if tag = 0 then
    return none
  else if tag = 1 then
    return some (← Cursor.text version)
  else
    throw (.invalidFaultTag tag)

/-- Reads the names of a request. -/
def groupsDecoder (version : Version) : Decoder NameSet := do
  let count ← Cursor.length version
  return NameSet.ofList (← Cursor.texts version count [])

/-- Reads what follows the kind. -/
def bodyDecoder (version : Version) : MessageKind → Decoder Message
  | .versionRequest => do return .versionRequest (← Cursor.half)
  | .versionResponse => do return .versionResponse (← Cursor.half)
  | .configurationRequest => do
    let processor ← Cursor.word
    return .configurationRequest processor (← groupsDecoder version)
  | .configurationResponse => do
    let processor ← Cursor.word
    return .configurationResponse processor (← Outcome.decoder version)
  | .reply => do
    let processor ← Cursor.word
    return .reply processor (← faultDecoder version)

/-- Reads what follows the version, up to the end. -/
def tailDecoder (version : Version) : Decoder Message := do
  let kind ← Cursor.ofExcept (MessageKind.ofCode (← Cursor.byte))
  let message ← bodyDecoder version kind
  Cursor.finish
  return message

/-- Reads the version a message was written with. -/
def versionDecoder : Decoder Version := do
  Cursor.ofExcept (Version.ofOrdinal (← Cursor.half))

/-- Reads a message of any version. -/
def decodeAny (bytes : Bytes) : Except DecodeError (Version × Message) :=
  Decoder.run (do
    let version ← versionDecoder
    return (version, ← tailDecoder version)) bytes

/-- Reads a message that has to be written with a given version. -/
def decode (version : Version) (bytes : Bytes) : Except DecodeError Message :=
  Decoder.run (do
    let found ← versionDecoder
    if found ≠ version then
      throw (.versionMismatch version found)
    tailDecoder version) bytes

end Message

end ConfigExchange
