import ConfigExchange.Bytes
import ConfigExchange.Stream.IoError

/-! A socket to write to, whose behaviour is laid down call by call. It keeps what it accepted. -/
namespace ConfigExchange

/-- What is asked of a socket. -/
inductive SocketCall where
  | write (bytes : Bytes)
  | flush
  | shutdown

/-- What a call answers. -/
inductive CallAnswer where
  /-- A write took this many bytes from the front. -/
  | accepted (count : Nat)
  | done
  | failed (error : IoError)
  /-- The call has not come to an end yet. -/
  | pending

/-- What a socket does at its next call of one sort. -/
inductive SocketAction where
  /-- It takes everything. -/
  | succeed
  /-- It takes at most this many bytes. -/
  | accept (limit : Nat)
  | fail (kind : IoKind)
  /-- It keeps the caller waiting, until it is told to go on. -/
  | stall
  deriving DecidableEq

/-- What a socket does at its next calls. After the last action of a sort it succeeds for ever. -/
structure SocketScript where
  writes : List SocketAction := []
  flushes : List SocketAction := []
  shutdowns : List SocketAction := []
  deriving DecidableEq

/-- A socket: what it will do, what it accepted so far, and how many calls came to an end. -/
structure Socket where
  script : SocketScript := {}
  accepted : Bytes := []
  writeCalls : Nat := 0
  flushCalls : Nat := 0
  shutdownCalls : Nat := 0
  deriving DecidableEq

namespace Socket

/-- The first action of a list, and the others. -/
def nextAction : List SocketAction → SocketAction × List SocketAction
  | [] => (.succeed, [])
  | action :: rest => (action, rest)

/-- A write that takes `count` bytes. -/
def take (socket : Socket) (bytes : Bytes) (count : Nat) : CallAnswer × Socket :=
  let front := bytes.take count
  (.accepted front.length, { socket with accepted := socket.accepted ++ front })

/-- A write call. -/
def write (socket : Socket) (bytes : Bytes) : CallAnswer × Socket :=
  let (action, writes) := nextAction socket.script.writes
  let later := { socket with
    script := { socket.script with writes }
    writeCalls := socket.writeCalls + 1 }
  match action with
  | .succeed => later.take bytes bytes.length
  | .accept limit => later.take bytes limit
  | .fail kind => (.failed (.injected kind), later)
  | .stall => (.pending, socket)

/-- A flush call. -/
def flush (socket : Socket) : CallAnswer × Socket :=
  let (action, flushes) := nextAction socket.script.flushes
  let later := { socket with
    script := { socket.script with flushes }
    flushCalls := socket.flushCalls + 1 }
  match action with
  | .succeed | .accept _ => (.done, later)
  | .fail kind => (.failed (.injected kind), later)
  | .stall => (.pending, socket)

/-- A shutdown call. -/
def shutdown (socket : Socket) : CallAnswer × Socket :=
  let (action, shutdowns) := nextAction socket.script.shutdowns
  let later := { socket with
    script := { socket.script with shutdowns }
    shutdownCalls := socket.shutdownCalls + 1 }
  match action with
  | .succeed | .accept _ => (.done, later)
  | .fail kind => (.failed (.injected kind), later)
  | .stall => (.pending, socket)

def call (socket : Socket) : SocketCall → CallAnswer × Socket
  | .write bytes => socket.write bytes
  | .flush => socket.flush
  | .shutdown => socket.shutdown

/-- Lets a stalled call go on: of the writes, the flushes and the shutdowns, the first that start
with a stall lose it. -/
def unstall (socket : Socket) : Socket :=
  let script := socket.script
  if script.writes.head? = some .stall then
    { socket with script := { script with writes := script.writes.tail } }
  else if script.flushes.head? = some .stall then
    { socket with script := { script with flushes := script.flushes.tail } }
  else if script.shutdowns.head? = some .stall then
    { socket with script := { script with shutdowns := script.shutdowns.tail } }
  else socket

end Socket

/-- What happened on a socket: the bytes it accepted, and the calls that came to an end. -/
structure SocketActivity where
  bytes : Bytes
  writes : Nat
  flushes : Nat
  shutdowns : Nat
  deriving DecidableEq

/-- What happened on a socket since it was as it is in `earlier`, if a call came to an end. -/
def Socket.activitySince (socket earlier : Socket) : Option SocketActivity :=
  let activity : SocketActivity :=
    { bytes := socket.accepted.drop earlier.accepted.length
      writes := socket.writeCalls - earlier.writeCalls
      flushes := socket.flushCalls - earlier.flushCalls
      shutdowns := socket.shutdownCalls - earlier.shutdownCalls }
  if activity.writes + activity.flushes + activity.shutdowns = 0 then none else some activity

end ConfigExchange
