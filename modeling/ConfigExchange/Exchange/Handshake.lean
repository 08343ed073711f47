import ConfigExchange.Exchange.Error
import ConfigExchange.Frame.Reading
import ConfigExchange.Frame.Sending
import ConfigExchange.Message.Decoding
import ConfigExchange.Message.Encoding
import ConfigExchange.Stream.Link

/-! The handshake: the dialer names its newest version, and the acceptor answers with the version
that both use from then on. -/
namespace ConfigExchange

/-- Where one side of a handshake stands. -/
inductive HandshakeStage where
  /-- It sends a message. The acceptor has agreed on a version by then. -/
  | sending (rest : FrameSending) (agreed : Option Version)
  /-- It reads the message of the other side until `deadline`. -/
  | reading (deadline : Micros) (reading : FrameReading)
  | finished (result : Except ExchangeError Version)

/-- One side of a handshake. -/
structure Handshake where
  side : Side
  /-- The newest version this side speaks. -/
  own : Version
  inlet : Inlet
  outlet : Outlet
  stage : HandshakeStage

namespace Handshake

/-- The largest message that is accepted in a handshake. -/
def maxMessageSize : Nat := 64

/-- How long the message of the other side is waited for. -/
def patience : Micros := 3000000

/-- Starts to send a message, written with the version that every build reads. -/
def send (message : Message) (agreed : Option Version) : HandshakeStage :=
  match message.encode .oldest with
  | .ok payload => .sending (.start payload) agreed
  | .error error => .finished (.error (.encode error))

/-- Starts one side of a handshake. -/
def start (now : Micros) (side : Side) (own : Version) (inlet : Inlet) (outlet : Outlet) :
    Handshake where
  side
  own
  inlet
  outlet
  stage :=
    match side with
    | .dialer => send (.versionRequest own.ordinal) none
    | .acceptor => .reading (now + patience) .start

/-- What came of it. -/
def result? (handshake : Handshake) : Option (Except ExchangeError Version) :=
  match handshake.stage with
  | .finished result => some result
  | _ => none

/-- Takes up the message of the other side. -/
def receive (side : Side) (own : Version) (payload : Bytes) : HandshakeStage :=
  match side, Message.decode .oldest payload with
  | _, .error error => .finished (.error (.decode error))
  | .dialer, .ok (.versionResponse ordinal) =>
    .finished ((own.negotiate ordinal).mapError .decode)
  | .acceptor, .ok (.versionRequest ordinal) =>
    match own.negotiate ordinal with
    | .ok version => send (.versionResponse version.ordinal) (some version)
    | .error error => .finished (.error (.decode error))
  | .dialer, .ok other => .finished (.error (.unexpectedMessage .versionResponse other.kind))
  | .acceptor, .ok other => .finished (.error (.unexpectedMessage .versionRequest other.kind))

/-- The stage after a message was sent. The dialer reads then, and the acceptor is done. -/
def sent (now : Micros) : Option Version → HandshakeStage
  | some agreed => .finished (.ok agreed)
  | none => .reading (now + patience) .start

/-- One step: a call on the stream, or a read, or the end of the other side's time. -/
def step (now : Micros) (channels : Channels) (handshake : Handshake) :
    Option (Handshake × Channels) :=
  match handshake.stage with
  | .sending rest agreed =>
    match handshake.outlet.call channels rest.next with
    | (.pending, _, _) => none
    | (answer, outlet, channels) =>
      let stage :=
        match rest.resume answer with
        | .going rest => .sending rest agreed
        | .complete => sent now agreed
        | .failed error => .finished (.error (.frame (.io error)))
      some ({ handshake with outlet, stage }, channels)
  | .reading deadline reading =>
    match handshake.inlet.read channels reading.missing with
    | (.pending, _, _) =>
      if deadline ≤ now then
        some ({ handshake with stage := .finished (.error (.handshakeTimeout patience)) }, channels)
      else none
    | (answer, inlet, channels) =>
      let stage :=
        match reading.resume maxMessageSize answer with
        | .going next => .reading deadline next
        | .complete payload => receive handshake.side handshake.own payload
        | .failed error => .finished (.error (.frame error))
      some ({ handshake with inlet, stage }, channels)
  | .finished _ => none

/-- When it stops waiting. -/
def deadline? (handshake : Handshake) : Option Micros :=
  match handshake.stage with
  | .reading deadline _ => some deadline
  | .sending .. | .finished _ => none

/-- Goes on for at most `steps` steps. While nothing else happens, the clock moves to the end of the
other side's time. -/
def run : (steps : Nat) → Micros → Handshake → Handshake × Micros
  | 0, now, handshake => (handshake, now)
  | steps + 1, now, handshake =>
    match handshake.step now [] with
    | some (next, _) => run steps now next
    | none =>
      match handshake.deadline? with
      | some deadline => if now < deadline then run steps deadline handshake else (handshake, now)
      | none => (handshake, now)

/-- How many steps one side can take at most on streams that are laid down: calls and reads that
bring something, or were asked to fail, and a few between them. -/
def maxSteps (feed : Feed) (socket : Socket) : Nat :=
  feed.weight + socket.script.writes.length + 2 * maxMessageSize

/-- One side of a handshake on streams that are laid down: what came of it, when, and what was done
with the socket. -/
def onScript (side : Side) (own : Version) (feed : Feed) (socket : Socket) :
    Option (Except ExchangeError Version) × Micros × Socket :=
  let (last, now) := run (maxSteps feed socket) 0 (start 0 side own (.feed feed) (.socket socket))
  (last.result?, now,
    match last.outlet with
    | .socket socket => socket
    | .channel .. => socket)

/-- Lets two sides go on in turn, for at most `rounds` rounds. -/
def meet : (rounds : Nat) → Handshake → Handshake → Channels → Handshake × Handshake
  | 0, dialer, acceptor, _ => (dialer, acceptor)
  | rounds + 1, dialer, acceptor, channels =>
    let (dialer, channels) := (dialer.step 0 channels).getD (dialer, channels)
    let (acceptor, channels) := (acceptor.step 0 channels).getD (acceptor, channels)
    meet rounds dialer acceptor channels

/-- A handshake over a channel that holds up to `capacity` bytes in each direction: what came of it
for the dialer and for the acceptor. -/
def overChannel (dialing accepting : Version) (capacity : Nat) :
    Option (Except ExchangeError Version) × Option (Except ExchangeError Version) :=
  let dialer := start 0 .dialer dialing (.channel 0 .dialer) (.channel 0 .dialer)
  let acceptor := start 0 .acceptor accepting (.channel 0 .acceptor) (.channel 0 .acceptor)
  let (dialer, acceptor) := meet (2 * maxMessageSize) dialer acceptor [.ofCapacity capacity]
  (dialer.result?, acceptor.result?)

end Handshake

end ConfigExchange
