/-! Network addresses of members: an internet address of either version, and an endpoint there. -/
namespace ConfigExchange

/-- A socket address. An address of version 4 has four bytes, one of version 6 eight groups of two
bytes and a scope. -/
inductive Address where
  | v4 (octets : Vector UInt8 4) (endpoint : UInt16)
  | v6 (groups : Vector UInt16 8) (scope : UInt32) (endpoint : UInt16)
  deriving DecidableEq

namespace Address

/-- The numbers by which addresses are ordered: version 4 first, then the address, the endpoint
and the scope. -/
def orderKey : Address → List Nat
  | v4 octets endpoint => 0 :: octets.toList.map (·.toNat) ++ [endpoint.toNat]
  | v6 groups scope endpoint => 1 :: groups.toList.map (·.toNat) ++ [endpoint.toNat, scope.toNat]

/-! ### Text -/

/-- Octets in decimal, with points between them. -/
def octetsText (octets : List Nat) : String := ".".intercalate (octets.map toString)

/-- Groups in hexadecimal, with colons between them. -/
def groupsText (groups : List Nat) : String :=
  ":".intercalate (groups.map fun group => String.ofList (Nat.toDigits 16 group))

/-- Where the longest run of zeros starts in a list, and how long it is; of equally long runs the
first. -/
def longestZeros (groups : List Nat) : Nat × Nat :=
  let runs := (List.range groups.length).map fun i =>
    (i, ((groups.drop i).takeWhile (· = 0)).length)
  runs.foldl (fun best run => if best.2 < run.2 then run else best) (0, 0)

/-- An address of version 6. One that stands for an address of version 4 ends like that one; in any
other, the longest run of at least two zero groups is left out. -/
def v6Text (groups : List Nat) : String :=
  match groups with
  | [0, 0, 0, 0, 0, 0xffff, high, low] =>
    "::ffff:" ++ octetsText [high / 256, high % 256, low / 256, low % 256]
  | _ =>
    let (start, run) := longestZeros groups
    if run < 2 then groupsText groups
    else groupsText (groups.take start) ++ "::" ++ groupsText (groups.drop (start + run))

/-- How an address is shown. A scope is shown unless it is 0. -/
def text : Address → String
  | v4 octets endpoint => octetsText (octets.toList.map (·.toNat)) ++ ":" ++ toString endpoint.toNat
  | v6 groups scope endpoint =>
    let zone := if scope = 0 then "" else "%" ++ toString scope.toNat
    "[" ++ v6Text (groups.toList.map (·.toNat)) ++ zone ++ "]:" ++ toString endpoint.toNat

end Address

end ConfigExchange
