import ConfigExchange.Exchange.Transmission
import ConfigExchange.Frame.Reading
import ConfigExchange.Message.Decoding

/-! Requesting: the configuration of some groups is asked for on a connection, and the answer
read. -/
namespace ConfigExchange

/-- Where a request stands. -/
inductive RequestingStage where
  | sending (transmission : Transmission)
  | reading (reading : FrameReading)
  | finished (result : Except ExchangeError Outcome)

/-- A request for a processor, whose answer comes from `inlet`. -/
structure Requesting where
  connection : Nat
  inlet : Inlet
  processor : UInt32
  stage : RequestingStage

namespace Requesting

/-- A request of which nothing was sent yet. -/
def start (connection : Nat) (inlet : Inlet) (processor : UInt32) (groups : NameSet) :
    Requesting where
  connection
  inlet
  processor
  stage :=
    let request : Message := .configurationRequest processor groups
    .sending (.starting connection request.encoding)

/-- What came of it. -/
def result? (requesting : Requesting) : Option (Except ExchangeError Outcome) :=
  match requesting.stage with
  | .finished result => some result
  | _ => none

/-- What the frame read for an answer says, if it is the answer to this request. -/
def accept (processor : UInt32) (version : Version) (payload : Bytes) :
    Except ExchangeError Outcome :=
  match Message.decode version payload with
  | .error error => .error (.decode error)
  | .ok (.configurationResponse received outcome) =>
    if received = processor then .ok outcome else .error (.processorMismatch processor received)
  | .ok other => .error (.unexpectedMessage .configurationResponse other.kind)

/-- The stage after a read. -/
def advance (processor : UInt32) (version : Version) : FrameProgress → RequestingStage
  | .going next => .reading next
  | .complete payload => .finished (accept processor version payload)
  | .failed error => .finished (.error (.frame error))

/-- The stage after the request was sent, or not. -/
def sent : Except SendError Unit → RequestingStage
  | .ok () => .reading .start
  | .error (.encode error) => .finished (.error (.encode error))
  | .error (.connection error) => .finished (.error (.connection error))

/-- One step: a step of the sending, or a read. -/
def step (cluster : Cluster) (requesting : Requesting) : Option (Requesting × Cluster) :=
  cluster.connections[requesting.connection]?.bind fun connection =>
    match requesting.stage with
    | .sending (.finished result) => some ({ requesting with stage := sent result }, cluster)
    | .sending transmission =>
      (transmission.step cluster).map fun (next, cluster) =>
        ({ requesting with stage := .sending next }, cluster)
    | .reading reading =>
      match requesting.inlet.read cluster.channels reading.missing with
      | (.pending, _, _) => none
      | (answer, inlet, channels) =>
        let progress := reading.resume connection.maxMessageSize answer
        some ({ requesting with
          inlet, stage := advance requesting.processor connection.version progress },
          { cluster with channels })
    | .finished _ => none

/-- Ends the request where it is. -/
def drop (cluster : Cluster) (requesting : Requesting) : Cluster :=
  match requesting.stage with
  | .sending transmission => transmission.drop cluster
  | .reading _ | .finished _ => cluster

/-- When it stops waiting. -/
def alarm? (cluster : Cluster) (requesting : Requesting) : Option Alarm :=
  match requesting.stage with
  | .sending transmission => transmission.alarm? cluster
  | .reading _ | .finished _ => none

end Requesting

end ConfigExchange
