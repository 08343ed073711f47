import ConfigExchange.CodecError
import ConfigExchange.Configuration.Snapshot
import ConfigExchange.MessagePack.Reader

/-! The body of a snapshot: how a snapshot is written as a MessagePack value, and which values are
read as a snapshot. Records are written as maps from field names to values; they are also read from
arrays that hold their fields in order. -/
namespace ConfigExchange

open MessagePack

namespace Body

/-- The fields of a snapshot, in the order in which they are written. -/
def snapshotFields : List String := ["generation", "groups"]

/-- The fields of a group, in the order in which they are written. -/
def groupFields : List String :=
  ["name", "jars", "config_files", "regions", "properties", "log_file_size_limit"]

/-! ### Writing -/

def writeText (text : String) : Bytes := writeStr (Text.utf8 text)

def writeNames (names : NameSet) : Bytes :=
  writeArrayHead names.size ++ names.names.flatMap writeText

def writeProperties (properties : NameMap String) : Bytes :=
  writeMapHead properties.size ++
    properties.entries.flatMap fun entry => writeText entry.1 ++ writeText entry.2

def writeLimit : Option UInt64 → Bytes
  | none => writeNil
  | some limit => writeUInt limit.toNat

def writeGroup (group : Group) : Bytes :=
  writeMapHead 6 ++
    writeText "name" ++ writeText group.name ++
    writeText "jars" ++ writeNames group.jars ++
    writeText "config_files" ++ writeNames group.configFiles ++
    writeText "regions" ++ writeNames group.regions ++
    writeText "properties" ++ writeProperties group.properties ++
    writeText "log_file_size_limit" ++ writeLimit group.logFileSizeLimit

/-- The body that holds these groups, in this order. -/
def write (generation : UInt64) (groups : List Group) : Bytes :=
  writeMapHead 2 ++
    writeText "generation" ++ writeUInt generation.toNat ++
    writeText "groups" ++ writeArrayHead groups.length ++ groups.flatMap writeGroup

/-! ### Reading -/

/-- A text: a string or a binary of well formed UTF-8. -/
def text? : Value → Option String
  | .str bytes | .bin bytes => Text.ofUtf8? bytes
  | _ => none

/-- A number that is not negative. Every number that can be written is below 2^64. -/
def word? : Value → Option UInt64
  | .unsigned n => some (UInt64.ofNat n)
  | .signed n => if 0 ≤ n then some (UInt64.ofNat n.toNat) else none
  | _ => none

/-- A list. An empty binary is an empty list. -/
def items? : Value → Option (List Value)
  | .array items => some items
  | .bin [] => some []
  | _ => none

/-- A set of texts; repeated ones count once. -/
def names? (value : Value) : Option NameSet := do
  return NameSet.ofList (← (← items? value).mapM text?)

/-- Texts under texts; of a repeated key the last value counts. -/
def properties? : Value → Option (NameMap String)
  | .map entries => do
    return NameMap.ofList (← entries.mapM fun entry => do
      return (← text? entry.1, ← text? entry.2))
  | _ => none

/-- Nil, or a number below 2^64. -/
def limit? : Value → Option (Option UInt64)
  | .nil => some none
  | value => (word? value).map some

/-- Which field a key names, if the key can stand for a field at all: `some none` is a field that is
not known, whose value is skipped. Keys are names, or positions in the list of fields, which are
written without a sign. -/
def field? (fields : List String) : Value → Option (Option Nat)
  | .str bytes | .bin bytes => some (fields.findIdx? fun field => Text.utf8 field = bytes)
  | .unsigned n => some (if n < fields.length then some n else none)
  | _ => none

/-- Sorts the entries of a map by field. Fails if a key cannot stand for a field, or if a field is
given twice. -/
def collect (fields : List String) :
    (entries : List (Value × Value)) → (found : List (Nat × Value)) → Option (List (Nat × Value))
  | [], found => some found
  | (key, value) :: rest, found =>
    match field? fields key with
    | none => none
    | some none => collect fields rest found
    | some (some i) =>
      if (found.lookup i).isSome then none else collect fields rest ((i, value) :: found)

/-- The values of a record by field: from an array of exactly its fields in order, or from a map. -/
def record? (fields : List String) : Value → Option (List (Nat × Value))
  | .array items =>
    if items.length = fields.length then some ((List.range fields.length).zip items) else none
  | .map entries => collect fields entries []
  | _ => none

/-- A group. Only the limit of the log file may be missing. -/
def group? (value : Value) : Option Group := do
  let found ← record? groupFields value
  let name ← text? (← found.lookup 0)
  let jars ← names? (← found.lookup 1)
  let configFiles ← names? (← found.lookup 2)
  let regions ← names? (← found.lookup 3)
  let properties ← properties? (← found.lookup 4)
  let logFileSizeLimit ← match found.lookup 5 with
    | some value => limit? value
    | none => some none
  return { name, jars, configFiles, regions, properties, logFileSizeLimit }

/-- A generation and a list of groups. -/
def snapshot? (value : Value) : Option (UInt64 × List Group) := do
  let found ← record? snapshotFields value
  let generation ← word? (← found.lookup 0)
  let groups ← (← items? (← found.lookup 1)).mapM group?
  return (generation, groups)

/-- The first name in a list that occurred before it, after the names already `seen`. -/
def firstRepeated? : (seen : List String) → List String → Option String
  | _, [] => none
  | seen, name :: rest =>
    if name ∈ seen then some name else firstRepeated? (name :: seen) rest

end Body

namespace Snapshot

/-- The body of a snapshot, its groups in the order of their names. -/
def toBody (snapshot : Snapshot) : Bytes := Body.write snapshot.generation snapshot.groups.values

/-- The snapshot at the front of a body; bytes after it are ignored. No two groups may have one
name. -/
def ofBody (body : Bytes) : Except DecodeError Snapshot :=
  match (MessagePack.read body).bind fun (value, _) => Body.snapshot? value with
  | none => .error .malformedBody
  | some (generation, groups) =>
    match Body.firstRepeated? [] (groups.map (·.name)) with
    | some name => .error (.duplicateGroup name)
    | none => .ok (ofGroups generation groups)

end Snapshot

end ConfigExchange
