/-! The signal that tells everything a member runs to stop. -/
namespace ConfigExchange

/-- Whether cancellation is in progress, and why. -/
structure Signal where
  reason : Option String := none
  deriving DecidableEq

namespace Signal

def isRaised (signal : Signal) : Bool := signal.reason.isSome

/-- Raises the signal. The first reason given is kept. -/
def raise (signal : Signal) (reason : String) : Signal :=
  ⟨signal.reason.or (some reason)⟩

end Signal

end ConfigExchange
