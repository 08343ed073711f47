import ConfigExchange.Bytes

/-! Versions of the protocol. A version fixes how wide the length fields inside a message are. -/
namespace ConfigExchange

/-- The versions this build speaks. -/
inductive Version where
  | v1
  | v2
  deriving DecidableEq

namespace Version

/-- The oldest version. Every build reads it, so the handshake is written with it. -/
def oldest : Version := v1

/-- The number that stands for a version on the wire. -/
def ordinal : Version → UInt16
  | v1 => 1
  | v2 => 2

/-- The version with a given number. -/
def ofOrdinal? (ordinal : UInt16) : Option Version :=
  if ordinal = 1 then some v1 else if ordinal = 2 then some v2 else none

/-- Number of bytes of a length field. -/
def lengthWidth : Version → Nat
  | v1 => 2
  | v2 => 4

/-- The greatest length that a length field can hold. -/
def maxLength (version : Version) : Nat := byteRange version.lengthWidth - 1

/-- How a version is shown. -/
def text : Version → String
  | v1 => "v1"
  | v2 => "v2"

@[simp] theorem ofOrdinal?_ordinal (version : Version) :
    ofOrdinal? version.ordinal = some version := by
  cases version <;> decide

theorem ordinal_of_ofOrdinal? {ordinal : UInt16} {version : Version}
    (h : ofOrdinal? ordinal = some version) : version.ordinal = ordinal := by
  simp only [ofOrdinal?] at h
  split at h
  · cases h; simp_all [Version.ordinal]
  · split at h
    · cases h; simp_all [Version.ordinal]
    · cases h

end Version

end ConfigExchange
