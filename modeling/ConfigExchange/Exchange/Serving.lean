import ConfigExchange.Exchange.Reply
import ConfigExchange.Frame.Reading
import ConfigExchange.Message.Decoding

/-! Serving: requests for configuration are read one after the other and answered on a
connection. -/
namespace ConfigExchange

/-- Works out the answer to a request that came in on a connection, and starts to send it. -/
def Cluster.answer (cluster : Cluster) (index : Nat) (connection : Connection) (processor : UInt32)
    (groups : NameSet) : Delivery × Cluster :=
  let (outcome, cluster) := cluster.handle connection.site true groups
  let response : Message := .configurationResponse processor outcome
  (.starting { connection := index, recipient := connection.remote } response.encoding, cluster)

/-- How far the answer to one frame has come. -/
inductive Answering where
  | starting (connection : Nat) (frame : Bytes)
  | replying (delivery : Delivery)
  | finished (result : Except ExchangeError (List Member))

namespace Answering

/-- One step. A frame that is no request for configuration is an error. -/
def step (cluster : Cluster) : Answering → Option (Answering × Cluster)
  | starting index frame =>
    cluster.connections[index]?.map fun connection =>
      match Message.decode connection.version frame with
      | .error error => (finished (.error (.decode error)), cluster)
      | .ok (.configurationRequest processor groups) =>
        let (delivery, cluster) := cluster.answer index connection processor groups
        (replying delivery, cluster)
      | .ok other =>
        (finished (.error (.unexpectedMessage .configurationRequest other.kind)), cluster)
  | replying (.finished _ result) => some (finished (result.mapError .reply), cluster)
  | replying delivery =>
    (delivery.step cluster).map fun (next, cluster) => (replying next, cluster)
  | finished _ => none

/-- Ends the answer where it is. -/
def drop (cluster : Cluster) : Answering → Cluster
  | replying delivery => delivery.drop cluster
  | starting .. | finished _ => cluster

/-- When it stops waiting. -/
def alarm? (cluster : Cluster) : Answering → Option Alarm
  | replying delivery => delivery.alarm? cluster
  | starting .. | finished _ => none

end Answering

/-- Where the serving of a connection stands. -/
inductive ServingStage where
  | reading (reading : FrameReading)
  | replying (delivery : Delivery)
  | finished (result : Except ExchangeError Unit)

/-- The serving of a connection, whose requests come from `inlet`. -/
structure Serving where
  connection : Nat
  inlet : Inlet
  stage : ServingStage := .reading .start

namespace Serving

/-- What came of it. -/
def result? (serving : Serving) : Option (Except ExchangeError Unit) :=
  match serving.stage with
  | .finished result => some result
  | _ => none

/-- Takes up a frame: a request is answered, and anything else is passed over. -/
def receive (serving : Serving) (cluster : Cluster) (connection : Connection) (payload : Bytes) :
    Serving × Cluster :=
  match Message.decode connection.version payload with
  | .ok (.configurationRequest processor groups) =>
    let (delivery, cluster) := cluster.answer serving.connection connection processor groups
    ({ serving with stage := .replying delivery }, cluster)
  | _ => ({ serving with stage := .reading .start }, cluster)

/-- Takes up what a read made of a frame. A stream that closes between frames ends the serving. -/
def advance (serving : Serving) (cluster : Cluster) (connection : Connection) :
    FrameProgress → Serving × Cluster
  | .going next => ({ serving with stage := .reading next }, cluster)
  | .complete payload => serving.receive cluster connection payload
  | .failed .closed => ({ serving with stage := .finished (.ok ()) }, cluster)
  | .failed error => ({ serving with stage := .finished (.error (.frame error)) }, cluster)

/-- One step: a read, or a step of a reply. Serving ends with the requests, or when a requester is
gone. -/
def step (cluster : Cluster) (serving : Serving) : Option (Serving × Cluster) :=
  cluster.connections[serving.connection]?.bind fun connection =>
    match serving.stage with
    | .reading reading =>
      match serving.inlet.read cluster.channels reading.missing with
      | (.pending, _, _) => none
      | (answer, inlet, channels) =>
        some ({ serving with inlet }.advance { cluster with channels } connection
          (reading.resume connection.maxMessageSize answer))
    | .replying (.finished _ (.ok [])) =>
      some ({ serving with stage := .reading .start }, cluster)
    | .replying (.finished _ (.ok _)) =>
      some ({ serving with stage := .finished (.ok ()) }, cluster)
    | .replying (.finished _ (.error error)) =>
      some ({ serving with stage := .finished (.error (.reply error)) }, cluster)
    | .replying delivery =>
      (delivery.step cluster).map fun (next, cluster) =>
        ({ serving with stage := .replying next }, cluster)
    | .finished _ => none

/-- Ends the serving where it is. -/
def drop (cluster : Cluster) (serving : Serving) : Cluster :=
  match serving.stage with
  | .replying delivery => delivery.drop cluster
  | .reading _ | .finished _ => cluster

/-- When it stops waiting. -/
def alarm? (cluster : Cluster) (serving : Serving) : Option Alarm :=
  match serving.stage with
  | .replying delivery => delivery.alarm? cluster
  | .reading _ | .finished _ => none

end Serving

end ConfigExchange
