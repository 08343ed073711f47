import ConfigExchange.Configuration.Service
import ConfigExchange.Connection.Pool
import ConfigExchange.Member
import ConfigExchange.Settings
import ConfigExchange.Signal

/-! Sites: what all connections of one member share. -/
namespace ConfigExchange

/-- The site of a member: the signal, the pool of buffers, and the configuration service with its
cache. Sources are named by numbers. -/
structure Site where
  self : Member
  settings : Settings
  signal : Signal := {}
  pool : Pool
  service : Service Nat
  /-- None if nothing is to be remembered. -/
  cache : Option Cache
  deriving DecidableEq

namespace Site

/-- The site of a member that has just been started. -/
def ofSettings (self : Member) (settings : Settings) : Site where
  self
  settings
  pool := .ofSize settings.poolSize settings.bufferCapacity settings.retainLimit
  service := { enabled := settings.configurationEnabled }
  cache :=
    if settings.cacheCapacity = 0 then none
    else some { capacity := settings.cacheCapacity, ttl := settings.cacheTtl }

/-- Raises the signal, and nothing else. -/
def cancel (site : Site) (reason : String) : Site :=
  { site with signal := site.signal.raise reason }

/-- Raises the signal, stops the service and closes the pool. -/
def shutdown (site : Site) (reason : String) : Site :=
  { site.cancel reason with service := site.service.stop, pool := site.pool.close }

end Site

end ConfigExchange
