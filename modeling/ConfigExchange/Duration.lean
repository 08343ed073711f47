/-! Spans of time in microseconds, how they are shown, and alarms. -/
namespace ConfigExchange

/-- A span of time, or a moment on a clock, in microseconds. -/
abbrev Micros := Nat

namespace Micros

/-- A number below `10 ^ places` as that many digits, without the zeros at its end. -/
def fraction (places n : Nat) : List Char :=
  let digits := Nat.toDigits 10 n
  let padded := List.replicate (places - digits.length) '0' ++ digits
  (padded.reverse.dropWhile (· = '0')).reverse

/-- `n` counted in units of `10 ^ places`, as a decimal number. -/
def inUnits (places n : Nat) : String :=
  let unit := Nat.pow 10 places
  let whole := toString (n / unit)
  match fraction places (n % unit) with
  | [] => whole
  | digits => whole ++ "." ++ String.ofList digits

/-- A span in the largest of seconds, milliseconds and microseconds of which it holds at least one.
The empty span is shown in nanoseconds. -/
def text (span : Micros) : String :=
  if span = 0 then "0ns"
  else if 1000000 ≤ span then inUnits 6 span ++ "s"
  else if 1000 ≤ span then inUnits 3 span ++ "ms"
  else inUnits 0 span ++ "µs"

end Micros

/-- A moment at which waiting ends. -/
structure Alarm where
  moment : Micros
  /-- How many alarms were set before this one. -/
  number : Nat
  deriving DecidableEq

/-- Alarms go off in the order of their moments, and those of one moment in the order in which they
were set. -/
def Alarm.notAfter (a b : Alarm) : Bool :=
  decide (a.moment < b.moment ∨ a.moment = b.moment ∧ a.number ≤ b.number)

end ConfigExchange
