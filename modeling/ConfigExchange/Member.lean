import ConfigExchange.Member.Address

/-! Members: who takes part in the exchange. -/
namespace ConfigExchange

/-- A member: its address, and a token that tells it from an earlier member on that address. -/
structure Member where
  address : Address
  token : UInt64
  deriving DecidableEq

namespace Member

/-- How a member is shown. -/
def text (member : Member) : String := member.address.text ++ "#" ++ toString member.token.toNat

/-- How a member is shown inside other descriptions. -/
def description (member : Member) : String := "MemberId(" ++ member.text ++ ")"

/-- The compact form of a member in JSON. -/
def json (member : Member) : String :=
  let address := member.address.text
  let token := member.token.toNat
  s!"\x7b\"addr\":\"{address}\",\"token\":{token}\x7d"

/-- The numbers by which members are ordered: the address, then the token. -/
def orderKey (member : Member) : List Nat := member.address.orderKey ++ [member.token.toNat]

/-- Members in ascending order, each once. -/
def sorted (members : List Member) : List Member :=
  let ascending := members.mergeSort fun a b => decide (¬ b.orderKey < a.orderKey)
  ascending.foldr (fun member rest => if rest.head? = some member then rest else member :: rest) []

/-- Members for some addresses, with tokens counted up from `token`. -/
def generate (token : UInt64) (addresses : List Address) : List Member :=
  (List.range addresses.length).zipWith (fun i address => ⟨address, token + .ofNat i⟩) addresses

end Member

end ConfigExchange
