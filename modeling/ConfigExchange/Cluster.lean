import ConfigExchange.Connection
import ConfigExchange.Message.Encoding
import ConfigExchange.Session
import ConfigExchange.Site

/-! The state that sessions share: sites, sources of configuration, connections and channels, each
named by its place, and a clock. -/
namespace ConfigExchange

/-- A source, and how often it was asked for a snapshot. -/
structure SourceRecord where
  source : Source
  snapshotsTaken : Nat := 0

/-- The shared state, and all sessions there ever were. -/
structure Cluster where
  now : Micros := 0
  sites : List Site := []
  sources : List SourceRecord := []
  connections : List Connection := []
  channels : Channels := []
  sessions : List Session := []
  /-- How many alarms were set. -/
  alarms : Nat := 0

namespace Cluster

/-- Changes a site. -/
def modifySite (cluster : Cluster) (site : Nat) (change : Site → Site) : Cluster :=
  { cluster with sites := cluster.sites.modify site change }

/-- Changes the pool of a site. -/
def modifyPool (cluster : Cluster) (site : Nat) (change : Pool → Pool) : Cluster :=
  cluster.modifySite site fun site => { site with pool := change site.pool }

/-- Changes a connection. -/
def modifyConnection (cluster : Cluster) (connection : Nat) (change : Connection → Connection) :
    Cluster :=
  { cluster with connections := cluster.connections.modify connection change }

/-- Changes the lock of a connection. -/
def modifyLock (cluster : Cluster) (connection : Nat) (change : Lock → Lock) : Cluster :=
  cluster.modifyConnection connection fun connection =>
    { connection with lock := change connection.lock }

/-- The pool that a site has. -/
def pool? (cluster : Cluster) (site : Nat) : Option Pool := cluster.sites[site]?.map (·.pool)

/-- Changes the pool that a connection takes its buffers from. -/
def modifyPoolOf (cluster : Cluster) (connection : Nat) (change : Pool → Pool) : Cluster :=
  match cluster.connections[connection]? with
  | none => cluster
  | some found => cluster.modifyPool found.site change

/-- Puts a session in the place of one. -/
def setSession (cluster : Cluster) (id : SessionId) (session : Session) : Cluster :=
  { cluster with sessions := cluster.sessions.set id session }

/-- Sets an alarm. -/
def setAlarm (cluster : Cluster) (span : Micros) : Alarm × Cluster :=
  (⟨cluster.now + span, cluster.alarms⟩, { cluster with alarms := cluster.alarms + 1 })

/-- Starts a session, and gives its name. -/
def begin (cluster : Cluster) (session : Session) : SessionId × Cluster :=
  (cluster.sessions.length, { cluster with sessions := cluster.sessions ++ [session] })

/-- Adds a site, and gives its place. -/
def addSite (cluster : Cluster) (site : Site) : Nat × Cluster :=
  (cluster.sites.length, { cluster with sites := cluster.sites ++ [site] })

/-- Adds a source, and gives its place. -/
def addSource (cluster : Cluster) (source : Source) : Nat × Cluster :=
  (cluster.sources.length, { cluster with sources := cluster.sources ++ [{ source }] })

/-- Puts another source in the place of one, whose count goes on. -/
def setSource (cluster : Cluster) (index : Nat) (source : Source) : Cluster :=
  { cluster with sources := cluster.sources.modify index fun record => { record with source } }

/-- Adds a channel, and gives its place. -/
def addChannel (cluster : Cluster) (channel : Channel) : Nat × Cluster :=
  (cluster.channels.length, { cluster with channels := cluster.channels ++ [channel] })

/-- Gives up one end of a channel, and with it what the other end could write or read. -/
def dropChannel (cluster : Cluster) (index : Nat) : Cluster :=
  { cluster with channels := cluster.channels.modify index Channel.drop }

/-- Adds a connection of a site to a member, and gives its place. -/
def connect (cluster : Cluster) (site : Nat) (remote : Member) (version : Version)
    (outlet : Outlet) : Nat × Cluster :=
  let settings := (cluster.sites[site]?.map (·.settings)).getD {}
  let connection : Connection :=
    { site, remote, version, outlet,
      acquireTimeout := settings.acquireTimeout
      maxMessageSize := settings.maxMessageSize }
  (cluster.connections.length, { cluster with connections := cluster.connections ++ [connection] })

/-- Lets a stalled call on a connection's socket go on. -/
def unstall (cluster : Cluster) (connection : Nat) : Cluster :=
  cluster.modifyConnection connection fun connection =>
    match connection.outlet with
    | .socket socket => { connection with outlet := .socket socket.unstall }
    | .channel .. => connection

/-- Why everything on a connection is to be cancelled, if it is. -/
def cancelReason (cluster : Cluster) (connection : Connection) : Option String :=
  cluster.sites[connection.site]?.bind (·.signal.reason)

/-- What a cache reads as the time. Its clock is not the one on which deadlines are set, and stands
still during a run. -/
def cacheTime : Micros := 0

/-- The answer of a site to a request for the configuration of some groups. -/
def handle (cluster : Cluster) (site : Nat) (useCache : Bool) (requested : NameSet) :
    Outcome × Cluster :=
  match cluster.sites[site]? with
  | none => (.notReady, cluster)
  | some found =>
    let find (index : Nat) := cluster.sources[index]?.map (·.source)
    let cache := if useCache then found.cache else none
    let handled := found.service.handle find cache cacheTime requested
    let kept :=
      if useCache then cluster.modifySite site fun site => { site with cache := handled.cache }
      else cluster
    let counted :=
      match handled.tookSnapshot, found.service.runningSource with
      | true, some index =>
        { kept with sources := kept.sources.modify index fun record =>
            { record with snapshotsTaken := record.snapshotsTaken + 1 } }
      | _, _ => kept
    (handled.outcome, counted)

end Cluster

end ConfigExchange
