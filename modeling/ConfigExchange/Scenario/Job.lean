import ConfigExchange.Exchange.Requesting
import ConfigExchange.Exchange.Serving
import ConfigExchange.Scenario.Action
import ConfigExchange.Scenario.Answer

/-! Jobs: actions that are under way, and the state they work on. -/
namespace ConfigExchange.Scenario

/-- A requester at the other member, whose connection leads over a channel to a server. -/
structure Pair where
  requester : Nat
  channel : Nat

/-- How far an action has come. -/
inductive Job where
  | starting (action : Action)
  | borrowing (name : String) (loan : SessionId)
  | opening (name : String) (writer : SessionId)
  | flushing (writer : SessionId)
  | closing (closer : SessionId)
  | sending (name : String) (delivery : Delivery)
  | answering (answering : Answering)
  | serving (serving : Serving)
  | requesting (requesting : Requesting)
  | requestingOverPair (name : String) (pair : Pair) (requesting : Requesting)
  | closingPair (pair : Pair) (closer : SessionId)
  /-- The server of a pair, at the end of a channel. -/
  | hosting (channel : Nat) (serving : Serving)

/-- A job that goes on by itself. The server of a pair has no name. -/
structure Task where
  name : Option String
  job : Job

/-- The state of a scenario: the cluster, and what each name stands for. -/
structure State where
  cluster : Cluster
  connections : NameMap Nat := ∅
  writers : NameMap SessionId := ∅
  loans : NameMap SessionId := ∅
  senders : NameMap Sender := ∅
  sources : NameMap Nat := ∅
  pairs : NameMap Pair := ∅
  /-- The tasks by number, in the order in which they were started. -/
  tasks : List (Nat × Task) := []
  nextTask : Nat := 0
  /-- What came of the servers of pairs, by channel. -/
  served : List (Nat × Except ExchangeError Unit) := []
  /-- The answers of the tasks that came to an end since the last report. -/
  done : NameMap Answer := ∅

/-- What came of going on with a job. -/
inductive Progress where
  /-- The job has to wait. -/
  | waiting
  | going (job : Job) (state : State)
  | done (answer : Answer) (state : State)

namespace State

/-- The connection with a name, and its place. -/
def connection? (state : State) (name : String) : Option (Nat × Connection) :=
  (state.connections.get? name).bind fun index =>
    state.cluster.connections[index]?.map fun connection => (index, connection)

/-- Starts a task. -/
def addTask (state : State) (name : Option String) (job : Job) : State :=
  { state with
    tasks := state.tasks ++ [(state.nextTask, ⟨name, job⟩)]
    nextTask := state.nextTask + 1 }

/-- Ends a session where it is. -/
def dropSession (state : State) (id : SessionId) : State :=
  { state with cluster := state.cluster.drop id }

/-- Gives up the requester's end of a pair. -/
def dropPair (state : State) (pair : Pair) : State :=
  { state with cluster := state.cluster.dropChannel pair.channel }

/-- Ends a job where it is, and gives up what it holds. -/
def dropJob (state : State) : Job → State
  | .starting _ => state
  | .borrowing _ id | .opening _ id | .flushing id | .closing id => state.dropSession id
  | .sending _ delivery => { state with cluster := delivery.drop state.cluster }
  | .answering answering => { state with cluster := answering.drop state.cluster }
  | .serving serving => { state with cluster := serving.drop state.cluster }
  | .requesting requesting => { state with cluster := requesting.drop state.cluster }
  | .requestingOverPair _ pair requesting =>
    { state with cluster := requesting.drop state.cluster }.dropPair pair
  | .closingPair pair closer => (state.dropSession closer).dropPair pair
  | .hosting channel serving =>
    { state with cluster := (serving.drop state.cluster).dropChannel channel }

/-- When a job stops waiting. -/
def alarm? (state : State) : Job → Option Alarm
  | .starting _ => none
  | .borrowing _ id | .opening _ id | .flushing id | .closing id | .closingPair _ id =>
    state.cluster.alarm? id
  | .sending _ delivery => delivery.alarm? state.cluster
  | .answering answering => answering.alarm? state.cluster
  | .serving serving | .hosting _ serving => serving.alarm? state.cluster
  | .requesting requesting | .requestingOverPair _ _ requesting =>
    requesting.alarm? state.cluster

/-- Ends the tasks with a name where they are. -/
def abort (state : State) (name : String) : State :=
  let named := state.tasks.filter fun entry => decide (entry.2.name = some name)
  let others := state.tasks.filter fun entry => decide (entry.2.name ≠ some name)
  named.foldl (fun state entry => state.dropJob entry.2.job) { state with tasks := others }

/-- Gives a loan a name. The loan that had it ends. -/
def nameLoan (state : State) (name : String) (id : SessionId) : State :=
  let named := { state with loans := state.loans.insert name id }
  match state.loans.get? name with
  | some old => named.dropSession old
  | none => named

/-- Gives a writer a name. The writer that had it is dropped. -/
def nameWriter (state : State) (name : String) (id : SessionId) : State :=
  let named := { state with writers := state.writers.insert name id }
  match state.writers.get? name with
  | some old => named.dropSession old
  | none => named

/-- Gives a pair a name. The pair that had it is given up. -/
def namePair (state : State) (name : String) (pair : Pair) : State :=
  let named := { state with pairs := state.pairs.insert name pair }
  match state.pairs.get? name with
  | some old => named.dropPair old
  | none => named

end State

end ConfigExchange.Scenario
