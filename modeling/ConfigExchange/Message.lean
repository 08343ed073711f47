import ConfigExchange.CodecError
import ConfigExchange.Configuration.Outcome

/-! The messages that members exchange. -/
namespace ConfigExchange

/-- The kinds of messages. -/
inductive MessageKind where
  | versionRequest
  | versionResponse
  | configurationRequest
  | configurationResponse
  | reply
  deriving DecidableEq

namespace MessageKind

/-- The byte that stands for a kind. -/
def code : MessageKind → UInt8
  | versionRequest => 0
  | versionResponse => 1
  | configurationRequest => 2
  | configurationResponse => 3
  | reply => 4

/-- The kind with a given byte, or the error that there is none. -/
def ofCode (code : UInt8) : Except DecodeError MessageKind :=
  if code = 0 then .ok versionRequest
  else if code = 1 then .ok versionResponse
  else if code = 2 then .ok configurationRequest
  else if code = 3 then .ok configurationResponse
  else if code = 4 then .ok reply
  else .error (.unknownKind code)

/-- How a kind is named in an error. -/
def text : MessageKind → String
  | versionRequest => "VersionRequest"
  | versionResponse => "VersionResponse"
  | configurationRequest => "ConfigurationRequest"
  | configurationResponse => "ConfigurationResponse"
  | reply => "Reply"

end MessageKind

/-- A message between members. A processor is whoever waits at the requester for the answer. -/
inductive Message where
  /-- Opens the handshake with the newest version the sender speaks. -/
  | versionRequest (ordinal : UInt16)
  /-- The version both sides use from now on. -/
  | versionResponse (ordinal : UInt16)
  /-- Asks for the configuration of some groups. -/
  | configurationRequest (processor : UInt32) (groups : NameSet)
  | configurationResponse (processor : UInt32) (outcome : Outcome)
  /-- Confirms that a request was processed, or names the fault that kept it from being so. -/
  | reply (processor : UInt32) (fault : Option String)
  deriving DecidableEq

def Message.kind : Message → MessageKind
  | versionRequest _ => .versionRequest
  | versionResponse _ => .versionResponse
  | configurationRequest _ _ => .configurationRequest
  | configurationResponse _ _ => .configurationResponse
  | reply _ _ => .reply

end ConfigExchange
