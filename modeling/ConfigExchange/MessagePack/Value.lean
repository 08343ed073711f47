import ConfigExchange.Bytes

/-! Values of the MessagePack format, and how they are written in their shortest form. -/
namespace ConfigExchange.MessagePack

/-- A value. Strings are kept as bytes, since a value may be skipped without being read as text.
A float is kept as its bytes. Numbers in a form with a sign are told from those in a form without,
since only the latter can stand for a position. -/
inductive Value where
  | nil
  | bool (value : Bool)
  | unsigned (n : Nat)
  | signed (n : Int)
  | float (bytes : Bytes)
  | str (bytes : Bytes)
  | bin (bytes : Bytes)
  | array (items : List Value)
  | map (entries : List (Value × Value))
  | ext (kind : UInt8) (bytes : Bytes)

/-- A marker byte followed by a number of `width` bytes. -/
def marked (marker : UInt8) (width n : Nat) : Bytes := marker :: bigEndian width n

/-- The nil value. -/
def writeNil : Bytes := [0xc0]

/-- A number below 2^64. -/
def writeUInt (n : Nat) : Bytes :=
  if n < 0x80 then [UInt8.ofNat n]
  else if n < 0x100 then marked 0xcc 1 n
  else if n < 0x10000 then marked 0xcd 2 n
  else if n < 0x100000000 then marked 0xce 4 n
  else marked 0xcf 8 n

/-- The length that a head holds. It is kept in 32 bits, and higher bits are lost. -/
def headLength (n : Nat) : Nat := n % 0x100000000

theorem headLength_of_lt {n : Nat} (h : n < 0x100000000) : headLength n = n := Nat.mod_eq_of_lt h

/-- A string, given by its bytes. -/
def writeStr (bytes : Bytes) : Bytes :=
  let n := headLength bytes.length
  (if n < 0x20 then [UInt8.ofNat (0xa0 + n)]
    else if n < 0x100 then marked 0xd9 1 n
    else if n < 0x10000 then marked 0xda 2 n
    else marked 0xdb 4 n) ++ bytes

/-- The head of an array; the items follow. -/
def writeArrayHead (items : Nat) : Bytes :=
  let n := headLength items
  if n < 0x10 then [UInt8.ofNat (0x90 + n)]
  else if n < 0x10000 then marked 0xdc 2 n
  else marked 0xdd 4 n

/-- The head of a map; the keys and values follow in turn. -/
def writeMapHead (pairs : Nat) : Bytes :=
  let n := headLength pairs
  if n < 0x10 then [UInt8.ofNat (0x80 + n)]
  else if n < 0x10000 then marked 0xde 2 n
  else marked 0xdf 4 n

end ConfigExchange.MessagePack
