/-! JSON as it is written: strings and numbers are kept in the characters that stand for them, since
a value that is not wanted is only checked for its form. -/
namespace ConfigExchange

/-- A JSON value in its written form. -/
inductive JsonText where
  | null
  | bool (value : Bool)
  | number (literal : List Char)
  | string (raw : List Char)
  | array (items : List JsonText)
  | object (entries : List (List Char × JsonText))

namespace JsonText

/-- A text from which something was read, and what is left of it. -/
abbrev Read (α : Type) := Option (α × List Char)

def isDigit (c : Char) : Bool := decide ('0' ≤ c ∧ c ≤ '9')

/-- What a hexadecimal digit stands for. -/
def hexDigit? (c : Char) : Option Nat :=
  if isDigit c then some (c.toNat - 0x30)
  else if 'a' ≤ c ∧ c ≤ 'f' then some (c.toNat - 0x61 + 10)
  else if 'A' ≤ c ∧ c ≤ 'F' then some (c.toNat - 0x41 + 10)
  else none

def isBlank (c : Char) : Bool := c = ' ' || c = '\n' || c = '\t' || c = '\r'

def skipBlanks (text : List Char) : List Char := text.dropWhile isBlank

/-- What a string holds up to its closing quote, after the characters already `read`, which are kept
last first. Escapes have the right form, and no control character stands for itself. -/
def stringTail : List Char → (read : List Char) → Read (List Char)
  | [], _ => none
  | '"' :: rest, read => some (read.reverse, rest)
  | '\\' :: 'u' :: a :: b :: c :: d :: rest, read =>
    if [a, b, c, d].all fun c => (hexDigit? c).isSome then
      stringTail rest (d :: c :: b :: a :: 'u' :: '\\' :: read)
    else none
  | '\\' :: c :: rest, read =>
    if c ∈ ['"', '\\', '/', 'b', 'f', 'n', 'r', 't'] then stringTail rest (c :: '\\' :: read)
    else none
  | c :: rest, read => if c.toNat < 0x20 ∨ c = '\\' then none else stringTail rest (c :: read)

/-- At least one digit. -/
def digits (text : List Char) : Read (List Char) :=
  let front := text.takeWhile isDigit
  if front.isEmpty then none else some (front, text.drop front.length)

/-- The part of a number before its fraction: a lone zero, or digits that do not start with one. -/
def whole (text : List Char) : Read (List Char) :=
  match text with
  | '0' :: c :: rest => if isDigit c then none else some (['0'], c :: rest)
  | _ => digits text

/-- A fraction, if there is one. -/
def fraction : List Char → Read (List Char)
  | '.' :: rest => (digits rest).map fun (front, rest) => ('.' :: front, rest)
  | text => some ([], text)

/-- An exponent, if there is one. -/
def exponent : List Char → Read (List Char)
  | c :: rest =>
    if c = 'e' ∨ c = 'E' then
      match rest with
      | '+' :: rest => (digits rest).map fun (front, rest) => (c :: '+' :: front, rest)
      | '-' :: rest => (digits rest).map fun (front, rest) => (c :: '-' :: front, rest)
      | rest => (digits rest).map fun (front, rest) => (c :: front, rest)
    else some ([], c :: rest)
  | [] => some ([], [])

/-- A number. -/
def numberLiteral (text : List Char) : Option (List Char × List Char) := do
  let (sign, text) := match text with
    | '-' :: rest => (['-'], rest)
    | text => ([], text)
  let (n, text) ← whole text
  let (part, text) ← fraction text
  let (power, text) ← exponent text
  return (sign ++ n ++ part ++ power, text)

/-- A given word. -/
def word (letters : List Char) (value : JsonText) (text : List Char) : Read JsonText :=
  if letters.isPrefixOf text then some (value, text.drop letters.length) else none

mutual

/-- A value, after blanks. The number bounds the steps; the length of the text is enough. -/
def value : (steps : Nat) → List Char → Read JsonText
  | 0, _ => none
  | steps + 1, text =>
    match skipBlanks text with
    | '"' :: rest => (stringTail rest []).map fun (raw, rest) => (.string raw, rest)
    | '[' :: rest =>
      match skipBlanks rest with
      | ']' :: rest => some (.array [], rest)
      | rest => items steps [] rest
    | '\x7b' :: rest =>
      match skipBlanks rest with
      | '\x7d' :: rest => some (.object [], rest)
      | rest => entries steps [] rest
    | 'n' :: rest => word ['u', 'l', 'l'] .null rest
    | 't' :: rest => word ['r', 'u', 'e'] (.bool true) rest
    | 'f' :: rest => word ['a', 'l', 's', 'e'] (.bool false) rest
    | rest => (numberLiteral rest).map fun (literal, rest) => (.number literal, rest)

/-- The items of an array up to its end, after those already `read`. -/
def items : (steps : Nat) → (read : List JsonText) → List Char → Read JsonText
  | 0, _, _ => none
  | steps + 1, read, text =>
    match value steps text with
    | none => none
    | some (item, rest) =>
      match skipBlanks rest with
      | ',' :: rest => items steps (item :: read) rest
      | ']' :: rest => some (.array (item :: read).reverse, rest)
      | _ => none

/-- The entries of an object up to its end, after those already `read`. -/
def entries : (steps : Nat) → (read : List (List Char × JsonText)) → List Char → Read JsonText
  | 0, _, _ => none
  | steps + 1, read, text =>
    match skipBlanks text with
    | '"' :: rest =>
      match stringTail rest [] with
      | none => none
      | some (key, rest) =>
        match skipBlanks rest with
        | ':' :: rest =>
          match value steps rest with
          | none => none
          | some (item, rest) =>
            match skipBlanks rest with
            | ',' :: rest => entries steps ((key, item) :: read) rest
            | '\x7d' :: rest => some (.object ((key, item) :: read).reverse, rest)
            | _ => none
        | _ => none
    | _ => none

end

/-- The one value that a text holds, with nothing but blanks around it. -/
def read? (text : String) : Option JsonText :=
  match value (2 * text.length + 2) text.toList with
  | some (value, rest) => if (skipBlanks rest).isEmpty then some value else none
  | none => none

/-- The number that four hexadecimal digits stand for. -/
def unit (a b c d : Char) : Nat :=
  ([a, b, c, d].filterMap hexDigit?).foldl (fun n digit => n * 16 + digit) 0

/-- The character of a one letter escape. -/
def escaped : Char → Char
  | 'b' => '\x08'
  | 'f' => '\x0c'
  | 'n' => '\n'
  | 'r' => '\r'
  | 't' => '\t'
  | c => c

/-- The characters that the inside of a string stands for. Two halves of a pair have to follow each
other. -/
def unescape : List Char → (read : List Char) → Option (List Char)
  | [], read => some read.reverse
  | '\\' :: 'u' :: a :: b :: c :: d :: rest, read =>
    let high := unit a b c d
    if high < 0xd800 ∨ 0xe000 ≤ high then unescape rest (Char.ofNat high :: read)
    else
      match rest with
      | '\\' :: 'u' :: e :: f :: g :: h :: rest =>
        let low := unit e f g h
        if high < 0xdc00 ∧ 0xdc00 ≤ low ∧ low < 0xe000 then
          unescape rest (Char.ofNat (0x10000 + (high - 0xd800) * 0x400 + (low - 0xdc00)) :: read)
        else none
      | _ => none
  | '\\' :: c :: rest, read => unescape rest (escaped c :: read)
  | c :: rest, read => unescape rest (c :: read)

/-- The text that the inside of a string stands for. -/
def unescaped? (raw : List Char) : Option String := (unescape raw []).map String.ofList

end JsonText

end ConfigExchange
