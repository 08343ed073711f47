import ConfigExchange.Configuration.Snapshot

/-! What a member answers when it is asked for configuration. -/
namespace ConfigExchange

/-- The outcome of a request for configuration. -/
inductive Outcome where
  | ready (snapshot : Snapshot)
  /-- The member has nothing to hand out yet; asking again may help. -/
  | notReady
  /-- Asking again cannot help. -/
  | fatal (reason : String)
  /-- The configuration could not be assembled. -/
  | failed (fault : String)
  deriving DecidableEq

/-- Why a requester does not get configuration from an outcome. -/
inductive OutcomeError where
  | notEnabled (reason : String)
  | remote (fault : String)
  deriving DecidableEq

def OutcomeError.message : OutcomeError → String
  | notEnabled reason => reason
  | remote fault => s!"cluster configuration request failed on the remote member: {fault}"

namespace Outcome

def isReady : Outcome → Bool
  | ready _ => true
  | _ => false

/-- What a requester makes of an outcome: a snapshot, none yet, or an error. -/
def toResult : Outcome → Except OutcomeError (Option Snapshot)
  | ready snapshot => .ok (some snapshot)
  | notReady => .ok none
  | fatal reason => .error (.notEnabled reason)
  | failed fault => .error (.remote fault)

end Outcome

end ConfigExchange
