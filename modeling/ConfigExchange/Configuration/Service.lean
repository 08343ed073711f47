import ConfigExchange.Configuration.Cache
import ConfigExchange.Configuration.Outcome
import ConfigExchange.Configuration.Source

/-! The service that hands out configuration: its life, and how it answers a request. -/
namespace ConfigExchange

/-- Where a service is in its life. -/
inductive ServiceStatus where
  /-- The member does not run the service. -/
  | disabled
  /-- No source was published yet. -/
  | starting
  | running
  | stopped
  deriving DecidableEq

/-- How a status is shown. -/
def ServiceStatus.text : ServiceStatus → String
  | disabled => "Disabled"
  | starting => "Starting"
  | running => "Running"
  | stopped => "Stopped"

/-- How far an enabled service has come. -/
inductive ServicePhase where
  | starting
  | running
  | stopped
  deriving DecidableEq

/-- The service of one member. Its source is named by an `α`, and is published once. -/
structure Service (α : Type) where
  enabled : Bool
  phase : ServicePhase := .starting
  published : Option α := none
  deriving DecidableEq

namespace Service

variable {α : Type}

def status (service : Service α) : ServiceStatus :=
  if service.enabled then
    match service.phase with
    | .starting => .starting
    | .running => .running
    | .stopped => .stopped
  else .disabled

/-- Publishes a source, after which the service runs. Nothing comes back if the source is refused:
the service is disabled or stopped, or has a source. -/
def publish (service : Service α) (source : α) : Option (Service α) :=
  if service.enabled ∧ service.phase ≠ .stopped ∧ service.published.isNone then
    some { service with phase := .running, published := some source }
  else none

/-- Offers a source to the service. It is published, or it comes back. -/
def offer (service : Service α) (source : α) : Except α (Service α) :=
  match service.publish source with
  | some running => .ok running
  | none => .error source

/-- Stops the service for good. -/
def stop (service : Service α) : Service α :=
  if service.enabled then { service with phase := .stopped } else service

/-- The source of a running service. -/
def runningSource (service : Service α) : Option α :=
  if service.phase = .running then service.published else none

/-- How a service is shown. -/
def text (service : Service α) : String :=
  let status := service.status.text
  s!"ClusterConfigurationService \x7b status: {status} \x7d"

end Service

/-- Why a member without the service answers no request. -/
def notEnabledReason : String :=
  "cluster configuration service is not enabled on this member; " ++
    "enable it in the member configuration and restart"

/-- An answer of the service: the outcome, the cache it leaves, and whether a snapshot was taken
from the source. -/
structure Handled where
  outcome : Outcome
  cache : Option Cache
  tookSnapshot : Bool := false

/-- Answers a request from a source: from the cache if it knows the answer, and otherwise from a new
snapshot, which the cache then keeps. -/
def Source.answer (source : Source) (cache : Option Cache) (now : Micros) (requested : NameSet) :
    Handled :=
  let fromSource (cache : Option Cache) : Handled :=
    match source.snapshot with
    | .error error => ⟨.failed error.message, cache, true⟩
    | .ok snapshot =>
      let restricted := snapshot.restrict requested
      ⟨.ready restricted, cache.map fun cache => cache.insert now requested restricted, true⟩
  match cache with
  | none => fromSource none
  | some cache =>
    match cache.get now ⟨source.generation, requested⟩ with
    | (some snapshot, cache) => ⟨.ready snapshot, some cache, false⟩
    | (none, cache) => fromSource (some cache)

/-- Answers a request for the configuration of some groups. `find` gives the source with a name. -/
def Service.handle {α : Type} (service : Service α) (find : α → Option Source)
    (cache : Option Cache) (now : Micros) (requested : NameSet) : Handled :=
  match service.status with
  | .disabled => ⟨.fatal notEnabledReason, cache, false⟩
  | .starting | .stopped => ⟨.notReady, cache, false⟩
  | .running =>
    match service.runningSource.bind find with
    | none => ⟨.notReady, cache, false⟩
    | some source => source.answer cache now requested

end ConfigExchange
