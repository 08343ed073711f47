import ConfigExchange.Stream.Channel

/-! Where bytes come from and where they go: a stream that is laid down, or one end of a channel. -/
namespace ConfigExchange

/-- Channels, each named by its place. -/
abbrev Channels := List Channel

/-- What is read from. -/
inductive Inlet where
  | feed (feed : Feed)
  | channel (index : Nat) (side : Side)
  deriving DecidableEq

/-- What is written to. -/
inductive Outlet where
  | socket (socket : Socket)
  | channel (index : Nat) (side : Side)
  deriving DecidableEq

/-- A read of at most `n` bytes. A channel that does not exist has ended. -/
def Inlet.read (inlet : Inlet) (channels : Channels) (n : Nat) : ReadAnswer × Inlet × Channels :=
  match inlet with
  | feed f =>
    let (answer, rest) := f.read n
    (answer, feed rest, channels)
  | channel index side =>
    match channels[index]? with
    | none => (.ended, inlet, channels)
    | some found =>
      let (answer, later) := found.read side n
      (answer, inlet, channels.set index later)

/-- A call. A channel that does not exist has no other end. -/
def Outlet.call (outlet : Outlet) (channels : Channels) (call : SocketCall) :
    CallAnswer × Outlet × Channels :=
  match outlet with
  | socket s =>
    let (answer, later) := s.call call
    (answer, socket later, channels)
  | channel index side =>
    match channels[index]? with
    | none => (.failed .peerGone, outlet, channels)
    | some found =>
      let (answer, later) := found.call side call
      (answer, outlet, channels.set index later)

end ConfigExchange
