import ConfigExchange.MessagePack.Value

/-! Reading one value from the front of a byte string, in any of the forms a value can be written
in. The reader takes the nesting it may still descend as a number, and so always ends. -/
namespace ConfigExchange.MessagePack

/-- Where the length of a value stands: in its marker, or in a number of bytes after the marker. -/
inductive Length where
  | fixed (n : Nat)
  | counted (width : Nat)

/-- What a marker announces. -/
inductive Form where
  | nil
  | bool (value : Bool)
  | small (n : Nat)
  | negative (n : Int)
  | unsigned (width : Nat)
  | signed (width : Nat)
  | float (width : Nat)
  | str (length : Length)
  | bin (length : Length)
  | ext (length : Length)
  | array (length : Length)
  | map (length : Length)
  /-- The one marker that no value starts with. -/
  | reserved

/-- The form a marker byte stands for. -/
def Form.ofMarker (marker : UInt8) : Form :=
  let n := marker.toNat
  if n < 0x80 then small n
  else if n < 0x90 then map (.fixed (n - 0x80))
  else if n < 0xa0 then array (.fixed (n - 0x90))
  else if n < 0xc0 then str (.fixed (n - 0xa0))
  else if n ≥ 0xe0 then negative (n - 0x100 : Int)
  else match n with
    | 0xc0 => nil
    | 0xc2 => bool false
    | 0xc3 => bool true
    | 0xc4 => bin (.counted 1)
    | 0xc5 => bin (.counted 2)
    | 0xc6 => bin (.counted 4)
    | 0xc7 => ext (.counted 1)
    | 0xc8 => ext (.counted 2)
    | 0xc9 => ext (.counted 4)
    | 0xca => float 4
    | 0xcb => float 8
    | 0xcc => unsigned 1
    | 0xcd => unsigned 2
    | 0xce => unsigned 4
    | 0xcf => unsigned 8
    | 0xd0 => signed 1
    | 0xd1 => signed 2
    | 0xd2 => signed 4
    | 0xd3 => signed 8
    | 0xd4 => ext (.fixed 1)
    | 0xd5 => ext (.fixed 2)
    | 0xd6 => ext (.fixed 4)
    | 0xd7 => ext (.fixed 8)
    | 0xd8 => ext (.fixed 16)
    | 0xd9 => str (.counted 1)
    | 0xda => str (.counted 2)
    | 0xdb => str (.counted 4)
    | 0xdc => array (.counted 2)
    | 0xdd => array (.counted 4)
    | 0xde => map (.counted 2)
    | 0xdf => map (.counted 4)
    | _ => reserved

/-- The first `n` bytes and the rest, if there are that many. -/
def split? (n : Nat) (bytes : Bytes) : Option (Bytes × Bytes) :=
  let front := bytes.take n
  if front.length = n then some (front, bytes.drop n) else none

/-- An unsigned number of `width` bytes. -/
def readNat (width : Nat) (bytes : Bytes) : Option (Nat × Bytes) :=
  match split? width bytes with
  | some (front, rest) => some (ofBigEndian front, rest)
  | none => none

/-- A length, in the place where its form says it stands. -/
def Length.read : Length → Bytes → Option (Nat × Bytes)
  | fixed n, bytes => some (n, bytes)
  | counted width, bytes => readNat width bytes

/-- A string of bytes with its length. -/
def Length.readBytes (length : Length) (bytes : Bytes) : Option (Bytes × Bytes) :=
  match length.read bytes with
  | some (n, rest) => split? n rest
  | none => none

/-- A number of `width` bytes in two's complement. -/
def signedOf (width n : Nat) : Int :=
  if n < byteRange width / 2 then n else (n : Int) - byteRange width

/-- Reads values one after the other: `count` of them, after those already `read`, which are kept
last first. -/
def readMany (readOne : Bytes → Option (Value × Bytes)) :
    (count : Nat) → (read : List Value) → Bytes → Option (List Value × Bytes)
  | 0, read, bytes => some (read.reverse, bytes)
  | count + 1, read, bytes =>
    match readOne bytes with
    | some (value, rest) => readMany readOne count (value :: read) rest
    | none => none

/-- Reads entries one after the other, as `readMany` reads values. -/
def readEntries (readOne : Bytes → Option (Value × Bytes)) :
    (count : Nat) → (read : List (Value × Value)) → Bytes → Option (List (Value × Value) × Bytes)
  | 0, read, bytes => some (read.reverse, bytes)
  | count + 1, read, bytes =>
    match readOne bytes with
    | none => none
    | some (key, rest) =>
      match readOne rest with
      | none => none
      | some (value, rest) => readEntries readOne count ((key, value) :: read) rest

/-- Reads a value whose nested values are read by `inner`. Without `inner` the value may hold no
other: neither an array, nor a map, nor an extension. -/
def readWith (inner : Option (Bytes → Option (Value × Bytes))) : Bytes → Option (Value × Bytes)
  | [] => none
  | marker :: rest =>
    match Form.ofMarker marker with
    | .nil => some (.nil, rest)
    | .bool value => some (.bool value, rest)
    | .small n => some (.unsigned n, rest)
    | .negative n => some (.signed n, rest)
    | .unsigned width => (readNat width rest).map fun (n, rest) => (.unsigned n, rest)
    | .signed width => (readNat width rest).map fun (n, rest) => (.signed (signedOf width n), rest)
    | .float width => (split? width rest).map fun (bytes, rest) => (.float bytes, rest)
    | .str length => (length.readBytes rest).map fun (bytes, rest) => (.str bytes, rest)
    | .bin length => (length.readBytes rest).map fun (bytes, rest) => (.bin bytes, rest)
    | .ext length =>
      match inner, length.read rest with
      | some _, some (n, rest) =>
        match rest with
        | [] => none
        | kind :: rest => (split? n rest).map fun (bytes, rest) => (.ext kind bytes, rest)
      | _, _ => none
    | .array length =>
      match inner, length.read rest with
      | some readOne, some (n, rest) =>
        (readMany readOne n [] rest).map fun (items, rest) => (.array items, rest)
      | _, _ => none
    | .map length =>
      match inner, length.read rest with
      | some readOne, some (n, rest) =>
        (readEntries readOne n [] rest).map fun (entries, rest) => (.map entries, rest)
      | _, _ => none
    | .reserved => none

/-- Reads a value in which at most `nesting` arrays, maps and extensions stand inside each other. -/
def readValue : (nesting : Nat) → Bytes → Option (Value × Bytes)
  | 0 => readWith none
  | nesting + 1 => readWith (some (readValue nesting))

/-- How many arrays, maps and extensions may stand inside each other. -/
def maxNesting : Nat := 1023

/-- The value at the front of a byte string, and the bytes after it. -/
def read (bytes : Bytes) : Option (Value × Bytes) := readValue maxNesting bytes

end ConfigExchange.MessagePack
