import ConfigExchange.Stream.Feed
import ConfigExchange.Stream.Socket

/-! Channels in memory: two ends, and between them a pipe of limited size in each direction. -/
namespace ConfigExchange

/-- One direction of a channel. -/
structure Pipe where
  /-- How many bytes it can hold. -/
  capacity : Nat
  held : Bytes := []
  /-- Whether nothing can be written any more. What is held can still be read. -/
  closed : Bool := false
  deriving DecidableEq

namespace Pipe

/-- A read of at most `n` bytes. -/
def read (pipe : Pipe) (n : Nat) : ReadAnswer × Pipe :=
  if pipe.held = [] then (if pipe.closed then .ended else .pending, pipe)
  else (.data (pipe.held.take n), { pipe with held := pipe.held.drop n })

/-- A write, which takes as much as there is room for. -/
def write (pipe : Pipe) (bytes : Bytes) : CallAnswer × Pipe :=
  if pipe.closed then (.failed .peerGone, pipe)
  else if pipe.capacity ≤ pipe.held.length then (.pending, pipe)
  else
    let front := bytes.take (pipe.capacity - pipe.held.length)
    (.accepted front.length, { pipe with held := pipe.held ++ front })

def close (pipe : Pipe) : Pipe := { pipe with closed := true }

end Pipe

/-- The two ends of a channel. -/
inductive Side where
  | dialer
  | acceptor
  deriving DecidableEq

/-- A channel: the pipes that the dialer and the acceptor write to. -/
structure Channel where
  fromDialer : Pipe
  fromAcceptor : Pipe
  deriving DecidableEq

namespace Channel

/-- A channel that holds up to `capacity` bytes in each direction. -/
def ofCapacity (capacity : Nat) : Channel := ⟨{ capacity }, { capacity }⟩

/-- The pipe that one end writes to. -/
def outgoing (channel : Channel) : Side → Pipe
  | .dialer => channel.fromDialer
  | .acceptor => channel.fromAcceptor

/-- The pipe that one end reads from. -/
def incoming (channel : Channel) : Side → Pipe
  | .dialer => channel.fromAcceptor
  | .acceptor => channel.fromDialer

def setOutgoing (channel : Channel) (pipe : Pipe) : Side → Channel
  | .dialer => { channel with fromDialer := pipe }
  | .acceptor => { channel with fromAcceptor := pipe }

def setIncoming (channel : Channel) (pipe : Pipe) : Side → Channel
  | .dialer => { channel with fromAcceptor := pipe }
  | .acceptor => { channel with fromDialer := pipe }

/-- A read of at most `n` bytes at one end. -/
def read (channel : Channel) (side : Side) (n : Nat) : ReadAnswer × Channel :=
  let (answer, pipe) := (channel.incoming side).read n
  (answer, channel.setIncoming pipe side)

/-- A call at one end. Flushing does nothing, and a shutdown closes the pipe the end writes to. -/
def call (channel : Channel) (side : Side) : SocketCall → CallAnswer × Channel
  | .write bytes =>
    let (answer, pipe) := (channel.outgoing side).write bytes
    (answer, channel.setOutgoing pipe side)
  | .flush => (.done, channel)
  | .shutdown => (.done, channel.setOutgoing (channel.outgoing side).close side)

/-- Gives up one end: neither pipe takes anything any more. -/
def drop (channel : Channel) : Channel :=
  ⟨channel.fromDialer.close, channel.fromAcceptor.close⟩

end Channel

end ConfigExchange
