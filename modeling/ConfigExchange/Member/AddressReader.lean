import ConfigExchange.Member.Address

/-! Reading the text of an address. -/
namespace ConfigExchange.Address

/-- What a digit stands for, in a base of at most 16. -/
def digit? (base : Nat) (c : Char) : Option Nat :=
  let n := c.toNat
  let value :=
    if 0x30 ≤ n ∧ n ≤ 0x39 then some (n - 0x30)
    else if 0x61 ≤ n ∧ n ≤ 0x66 then some (n - 0x61 + 10)
    else if 0x41 ≤ n ∧ n ≤ 0x46 then some (n - 0x41 + 10)
    else none
  value.filter (· < base)

/-- A number of at least one digit and at most `limit`, taken from the front of a text. -/
def number (base limit : Nat) (text : List Char) : Option (Nat × List Char) :=
  let digits := text.takeWhile fun c => (digit? base c).isSome
  let n := (digits.filterMap (digit? base)).foldl (fun n digit => n * base + digit) 0
  if digits.length = 0 ∨ limit < n then none else some (n, text.drop digits.length)

/-- A byte in decimal, without needless zeros in front. -/
def octet (text : List Char) : Option (Nat × List Char) :=
  match text with
  | '0' :: c :: rest => if (digit? 10 c).isSome then none else some (0, c :: rest)
  | _ => number 10 255 text

/-- A group of an address of version 6: at most four hexadecimal digits. -/
def group (text : List Char) : Option (Nat × List Char) :=
  if (text.takeWhile fun c => (digit? 16 c).isSome).length ≤ 4 then number 16 0xffff text else none

/-- A given character. -/
def expect (c : Char) : List Char → Option (List Char)
  | first :: rest => if first = c then some rest else none
  | [] => none

/-- Four bytes with points between them. -/
def octets (text : List Char) : Option (Vector UInt8 4 × List Char) := do
  let (a, text) ← octet text
  let (b, text) ← octet (← expect '.' text)
  let (c, text) ← octet (← expect '.' text)
  let (d, text) ← octet (← expect '.' text)
  return (#v[.ofNat a, .ofNat b, .ofNat c, .ofNat d], text)

/-- Groups with colons between them, as many as there are up to `room`, after those already `read`.
The last two may be written as four bytes. Says whether they were. -/
def groups : (room : Nat) → (read : List Nat) → List Char → List Nat × Bool × List Char
  | 0, read, text => (read, false, text)
  | room + 1, read, text =>
    let next := if read.isEmpty then some text else expect ':' text
    match next.bind fun next => if room = 0 then none else octets next with
    | some (bytes, rest) =>
      let n := bytes.toList.map (·.toNat)
      let pair (i : Nat) := n.getD i 0 * 256 + n.getD (i + 1) 0
      (read ++ [pair 0, pair 2], true, rest)
    | none =>
      match next.bind group with
      | some (n, rest) => groups room (read ++ [n]) rest
      | none => (read, false, text)

/-- The eight groups of an address of version 6. Two colons stand for the groups that are left out;
nothing written as four bytes comes before them. -/
def v6Groups (text : List Char) : Option (Vector UInt16 8 × List Char) := do
  let (head, bytes, text) := groups 8 [] text
  let (all, text) ←
    if head.length = 8 then some (head, text)
    else if bytes then none
    else do
      let text ← expect ':' (← expect ':' text)
      let (tail, _, text) := groups (7 - head.length) [] text
      some (head ++ List.replicate (8 - head.length - tail.length) 0 ++ tail, text)
  return (Vector.ofFn fun i => .ofNat (all.getD i 0), text)

/-- A colon and an endpoint. -/
def endpointPart (text : List Char) : Option (UInt16 × List Char) := do
  let (endpoint, text) ← number 10 0xffff (← expect ':' text)
  return (.ofNat endpoint, text)

/-- An address of version 4 at the front of a text. -/
def readV4 (text : List Char) : Option (Address × List Char) := do
  let (bytes, text) ← octets text
  let (endpoint, text) ← endpointPart text
  return (.v4 bytes endpoint, text)

/-- An address of version 6, in brackets and perhaps with a scope, at the front of a text. -/
def readV6 (text : List Char) : Option (Address × List Char) := do
  let (all, text) ← v6Groups (← expect '[' text)
  let (scope, text) ← match expect '%' text with
    | none => some (0, text)
    | some zone => number 10 0xffffffff zone
  let (endpoint, text) ← endpointPart (← expect ']' text)
  return (.v6 all (.ofNat scope) endpoint, text)

/-- The address that a text shows. Nothing may come before or after it. -/
def ofText? (text : String) : Option Address :=
  match (readV4 text.toList).orElse fun _ => readV6 text.toList with
  | some (address, []) => some address
  | _ => none

end ConfigExchange.Address
