import ConfigExchange.Frame

/-! Sending frames, in as many calls as it takes: the header, the payload, and a flush. -/
namespace ConfigExchange

/-- What is left to send of a frame. -/
structure FrameSending where
  header : Bytes
  payload : Bytes
  deriving DecidableEq

/-- What a call made of a frame. -/
inductive SendProgress where
  | going (rest : FrameSending)
  | complete
  | failed (error : IoError)

namespace FrameSending

/-- A frame of which nothing was sent yet. -/
def start (payload : Bytes) : FrameSending := ⟨frameHeader payload.length, payload⟩

/-- The next call. There is none for an empty payload. -/
def next (sending : FrameSending) : SocketCall :=
  if sending.header ≠ [] then .write sending.header
  else if sending.payload ≠ [] then .write sending.payload
  else .flush

/-- Takes note that bytes were accepted. -/
def advance (sending : FrameSending) (count : Nat) : FrameSending :=
  if sending.header ≠ [] then { sending with header := sending.header.drop count }
  else { sending with payload := sending.payload.drop count }

/-- Whether the next call is a write. -/
def isWriting (sending : FrameSending) : Bool :=
  decide (sending.header ≠ [] ∨ sending.payload ≠ [])

/-- Takes up what a call answered. An interrupted write is tried again, and a write that takes
nothing is a failure. -/
def resume (sending : FrameSending) : CallAnswer → SendProgress
  | .accepted 0 => .failed .wroteNothing
  | .accepted count => .going (sending.advance count)
  | .done => .complete
  | .failed error =>
    if sending.isWriting ∧ error.kind = .interrupted then .going sending else .failed error
  | .pending => .going sending

/-- How many calls it can take at most until a frame is sent, on a socket that does not stall. -/
def weight (sending : FrameSending) (socket : Socket) : Nat :=
  sending.header.length + sending.payload.length + socket.script.writes.length + 1

end FrameSending

namespace Socket

/-- Sends on to the end of a frame, in at most `calls` calls. Nothing comes of it if the socket
stalls. -/
def finishFrame : (calls : Nat) → FrameSending → Socket → Option (Except IoError Unit) × Socket
  | 0, _, socket => (none, socket)
  | calls + 1, sending, socket =>
    match socket.call sending.next with
    | (.pending, rest) => (none, rest)
    | (answer, rest) =>
      match sending.resume answer with
      | .going sending => finishFrame calls sending rest
      | .complete => (some (.ok ()), rest)
      | .failed error => (some (.error error), rest)

/-- Sends one frame and flushes. -/
def sendFrame (socket : Socket) (payload : Bytes) : Option (Except IoError Unit) × Socket :=
  let sending := FrameSending.start payload
  socket.finishFrame (sending.weight socket) sending

/-- Sends frames one after the other: what came of each, and the socket after them. -/
def sendFrames (socket : Socket) : List Bytes → List (Option (Except IoError Unit)) × Socket
  | [] => ([], socket)
  | payload :: rest =>
    let (answer, next) := socket.sendFrame payload
    let (answers, last) := next.sendFrames rest
    (answer :: answers, last)

end Socket

end ConfigExchange
