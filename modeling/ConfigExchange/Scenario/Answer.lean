import ConfigExchange.Cluster
import ConfigExchange.Exchange.Reply

/-! What the steps of a scenario answer. -/
namespace ConfigExchange.Scenario

/-- What an action answers. -/
inductive Answer where
  | nothing
  /-- There is no thing with the name given. -/
  | missing
  | flag (value : Bool)
  | site (site : Site)
  | status (status : ServiceStatus)
  | loan (result : Except ConnectionError Buffer)
  /-- A loan after it was filled. -/
  | filledLoan (buffer : Buffer)
  | store (answer : Store.Answer) (generation : UInt64)
  | published
  /-- A source was not published. -/
  | rejected (source : String)
  /-- An outcome, and how often each source was asked for a snapshot. -/
  | handled (outcome : Outcome) (snapshotsTaken : List (String × Nat))
  | connection (connection : Connection) (cancelReason : Option String)
  | written (result : Except ConnectionError Unit)
  /-- An assertion failed. -/
  | panicked (failed : Assertion)
  | writer (result : Except ConnectionError (Connection × Buffer))
  /-- What came of filling a buffer, and all bytes in it. -/
  | filled (result : Except EncodeError Unit) (bytes : Bytes)
  | sent (result : Except ReplyError (List Member)) (sender : Sender)
  | answered (result : Except ExchangeError (List Member))
  | served (result : Except ExchangeError Unit)
  | requested (result : Except ExchangeError Outcome)
  | pairClosed (requester : Except ConnectionError Unit) (server : Except ExchangeError Unit)

/-- What there is to say after a step. -/
structure Report where
  /-- The answer of the step. There is none if it was still waiting when it was given up. -/
  answer : Option Answer
  /-- How long the step took. -/
  elapsed : Micros
  /-- What happened on the connections that have a name. -/
  activity : List (String × SocketActivity)
  /-- The answers of the tasks that came to an end. -/
  done : NameMap Answer
  /-- How many buffers of the member could be had at once. -/
  available : Nat

end ConfigExchange.Scenario
