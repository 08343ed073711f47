import ConfigExchange.Exchange.Transmission

/-! Replies. A sender sends one reply on the connection that the request came in on. If the
recipient cannot be reached that is reported, and the reply may be tried again. -/
namespace ConfigExchange

/-- A sender of one reply. -/
structure Sender where
  connection : Nat
  recipient : Member
  /-- Whether the reply was sent. -/
  isSent : Bool := false
  /-- Whether an attempt found the recipient unreachable. -/
  hasReportedFailure : Bool := false
  deriving DecidableEq

/-- Takes note of how an attempt ended: the members that were not reached, or the error. -/
def Sender.conclude (sender : Sender) :
    Except SendError Unit → Except ReplyError (List Member) × Sender
  | .ok () => (.ok [], { sender with isSent := true })
  | .error (.encode error) => (.error (.serialization error), sender)
  | .error (.connection error) =>
    let gone :=
      match error with
      | .unreachable member _ | .closed member => decide (member = sender.recipient)
      | _ => false
    if gone then (.ok [sender.recipient], { sender with hasReportedFailure := true })
    else (.error (.io sender.recipient error), sender)

/-- How far an attempt to send a reply has come. -/
inductive Delivery where
  | starting (sender : Sender) (message : Encodable)
  | sending (sender : Sender) (transmission : Transmission)
  | finished (sender : Sender) (result : Except ReplyError (List Member))

namespace Delivery

/-- One step. Nothing is sent if the one reply was sent before, or everything is being cancelled. -/
def step (cluster : Cluster) : Delivery → Option (Delivery × Cluster)
  | starting sender message =>
    if sender.isSent then some (finished sender (.error (.alreadySent sender.recipient)), cluster)
    else
      match cluster.connections[sender.connection]?.bind cluster.cancelReason with
      | some reason => some (finished sender (.error (.cancelled reason)), cluster)
      | none => some (sending sender (.starting sender.connection message), cluster)
  | sending sender transmission =>
    match transmission.result? with
    | some result =>
      let (answer, sender) := sender.conclude result
      some (finished sender answer, cluster)
    | none => (transmission.step cluster).map fun (next, cluster) => (sending sender next, cluster)
  | finished .. => none

/-- Ends the attempt where it is. -/
def drop (cluster : Cluster) : Delivery → Cluster
  | sending _ transmission => transmission.drop cluster
  | starting .. | finished .. => cluster

/-- When it stops waiting. -/
def alarm? (cluster : Cluster) : Delivery → Option Alarm
  | sending _ transmission => transmission.alarm? cluster
  | starting .. | finished .. => none

end Delivery

end ConfigExchange
