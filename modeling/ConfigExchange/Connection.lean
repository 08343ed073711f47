import ConfigExchange.Connection.Buffer
import ConfigExchange.Connection.Error
import ConfigExchange.Connection.Lock
import ConfigExchange.Stream.Link
import ConfigExchange.Version

/-! Connections: the writing half of a stream to one member, which one writer at a time may use. -/
namespace ConfigExchange

/-- A connection to one member. -/
structure Connection where
  /-- The site whose pool and signal it uses. -/
  site : Nat
  /-- The member at the other end. -/
  remote : Member
  /-- The version that messages are written with. -/
  version : Version
  outlet : Outlet
  /-- How long a writer waits for the lock and a buffer together. -/
  acquireTimeout : Micros
  /-- The largest payload that is sent or accepted. -/
  maxMessageSize : Nat
  lock : Lock := {}
  closed : Bool := false

namespace Connection

/-- How a version is shown inside a connection. -/
def versionName : Version → String
  | .v1 => "V1"
  | .v2 => "V2"

/-- How a connection is shown. -/
def text (connection : Connection) : String :=
  let remote := connection.remote.description
  let version := versionName connection.version
  let closed := connection.closed
  s!"Connection \x7b remote: {remote}, version: {version}, closed: {closed} \x7d"

/-- How a writer with a buffer is shown. -/
def writerText (connection : Connection) (buffer : Buffer) : String :=
  let remote := connection.remote.description
  let shown := buffer.text
  s!"ScopedWriter \x7b remote: {remote}, buf: {shown} \x7d"

end Connection

end ConfigExchange
