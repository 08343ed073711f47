import ConfigExchange.Cluster.Progress
import ConfigExchange.Exchange.Error

/-! Sending one message: a writer is obtained, the message is put into its buffer, and the buffer is
sent as one frame. -/
namespace ConfigExchange

/-- Puts a message into the buffer of a writer, in the version of its connection. What was appended
before an error stays in the buffer. -/
def Cluster.encode (cluster : Cluster) (id : SessionId) (message : Encodable) :
    Except EncodeError Unit × Cluster :=
  match cluster.sessions[id]? with
  | some (.writer index (.opened _)) =>
    match cluster.connections[index]? with
    | none => (.ok (), cluster)
    | some connection =>
      let encoding := message connection.version
      (encoding.result.map fun _ => (), cluster.append id encoding.appends)
  | _ => (.ok (), cluster)

/-- How far the sending of a message has come. -/
inductive Transmission where
  | starting (connection : Nat) (message : Encodable)
  /-- The writer is still to be obtained. -/
  | acquiring (writer : SessionId) (message : Encodable)
  | flushing (writer : SessionId)
  | finished (result : Except SendError Unit)

namespace Transmission

/-- What came of it. -/
def result? : Transmission → Option (Except SendError Unit)
  | finished result => some result
  | _ => none

/-- One step. There is none if it waits, or is finished. -/
def step (cluster : Cluster) : Transmission → Option (Transmission × Cluster)
  | starting connection message =>
    let (writer, cluster) := cluster.openWriter connection
    some (acquiring writer message, cluster)
  | acquiring writer message =>
    match cluster.sessions[writer]? with
    | some (.writer _ (.opened _)) =>
      match cluster.encode writer message with
      | (.ok (), cluster) => some (flushing writer, cluster.flush writer)
      | (.error error, cluster) => some (finished (.error (.encode error)), cluster.drop writer)
    | some (.writer _ (.finished (.error error))) =>
      some (finished (.error (.connection error)), cluster)
    | _ => (cluster.step writer).map fun cluster => (acquiring writer message, cluster)
  | flushing writer =>
    match cluster.sessions[writer]? with
    | some (.writer _ (.finished result)) =>
      some (finished (result.mapError .connection), cluster)
    | _ => (cluster.step writer).map fun cluster => (flushing writer, cluster)
  | finished _ => none

/-- Ends the sending where it is. -/
def drop (cluster : Cluster) : Transmission → Cluster
  | acquiring writer _ | flushing writer => cluster.drop writer
  | starting .. | finished _ => cluster

/-- When it stops waiting. -/
def alarm? (cluster : Cluster) : Transmission → Option Alarm
  | acquiring writer _ | flushing writer => cluster.alarm? writer
  | starting .. | finished _ => none

end Transmission

end ConfigExchange
