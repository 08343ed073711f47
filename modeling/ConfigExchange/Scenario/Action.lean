import ConfigExchange.Configuration.Source
import ConfigExchange.Duration
import ConfigExchange.Member
import ConfigExchange.Message.Encoding
import ConfigExchange.Stream.Feed
import ConfigExchange.Stream.Socket

/-! What a scenario is made of. The things it works with have names that it chooses. -/
namespace ConfigExchange.Scenario

/-- What is done with the site of the member. -/
inductive SiteAction where
  | view
  | shutdown (reason : String)
  /-- Raises the signal only. -/
  | cancel (reason : String)
  | closePool
  | stopService
  | viewStatus
  /-- Publishes a source. -/
  | publish (source : String)
  | handle (groups : NameSet) (useCache : Bool)

/-- What is done with a source of configuration. -/
inductive SourceAction where
  | add (content : Source)
  | replace (content : Source)
  | ask (operation : Store.Operation)

/-- What is done with a buffer on loan. -/
inductive LoanAction where
  | borrow (limit : Micros)
  | fill (bytes : Bytes)
  | giveBack

/-- What is done with a writer. -/
inductive WriterAction where
  /-- Obtains it on a connection. -/
  | obtain (connection : String)
  | fill (bytes : Bytes)
  /-- Puts a message into its buffer. -/
  | encode (message : Encodable)
  | flush
  | drop

/-- What is done with a connection. -/
inductive ConnectionAction where
  | connect (remote : Member) (version : Version) (script : SocketScript)
  | view
  | close
  | unstall
  /-- Adds a sender of a reply. -/
  | addSender (sender : String)
  /-- Answers the request in one frame. -/
  | answer (frame : Bytes)
  | serve (requests : Feed)
  | request (answers : Feed) (processor : UInt32) (groups : NameSet)

/-- What is done with a server at this member and a requester at the other one, joined by a
channel. -/
inductive PairAction where
  | join (version requesterVersion : Version) (capacity : Nat)
  | request (processor : UInt32) (groups : NameSet)
  /-- Closes the requester's connection and waits for the server. -/
  | close

/-- Something that is done, and may take time. -/
inductive Action where
  | site (action : SiteAction)
  | source (name : String) (action : SourceAction)
  | loan (name : String) (action : LoanAction)
  | writer (name : String) (action : WriterAction)
  | connection (name : String) (action : ConnectionAction)
  /-- Sends a reply. -/
  | send (sender : String) (message : Encodable)
  | pair (name : String) (action : PairAction)
  /-- Ends a task where it is. -/
  | abort (task : String)

/-- A step of a scenario. -/
inductive Step where
  /-- An action whose end is waited for. -/
  | act (action : Action)
  /-- An action that is left to go on by itself. -/
  | spawn (task : String) (action : Action)
  /-- Time passes. -/
  | advance (span : Micros)

end ConfigExchange.Scenario
