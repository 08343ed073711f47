import ConfigExchange.Member
import ConfigExchange.Member.AddressReader
import ConfigExchange.Member.JsonText

/-! Reading a member from JSON: an object with an address and a token, or an array of the two. -/
namespace ConfigExchange.Member

/-- An address, as a string. -/
def addressOf? : JsonText → Option Address
  | .string raw => (JsonText.unescaped? raw).bind Address.ofText?
  | _ => none

/-- A token, as a number without sign, fraction and exponent below 2^64. -/
def tokenOf? : JsonText → Option UInt64
  | .number literal =>
    if literal.all JsonText.isDigit then
      let n := literal.foldl (fun n c => n * 10 + (c.toNat - 0x30)) 0
      if n < UInt64.size then some (.ofNat n) else none
    else none
  | _ => none

/-- Sorts the entries of an object into address and token. Other keys are skipped, and a key that is
given twice is refused. -/
def collect : List (List Char × JsonText) → Option JsonText → Option JsonText →
    Option (JsonText × JsonText)
  | [], address, token => do return (← address, ← token)
  | (raw, value) :: rest, address, token =>
    match JsonText.unescaped? raw with
    | none => none
    | some key =>
      if key = "addr" then
        if address.isSome then none else collect rest (some value) token
      else if key = "token" then
        if token.isSome then none else collect rest address (some value)
      else collect rest address token

/-- The member that a JSON text holds. -/
def ofJson? (text : String) : Option Member := do
  let (address, token) ← match ← JsonText.read? text with
    | .array [address, token] => some (address, token)
    | .object entries => collect entries none none
    | _ => none
  return ⟨← addressOf? address, ← tokenOf? token⟩

end ConfigExchange.Member
