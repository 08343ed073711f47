import ConfigExchange.Duration

/-! What can be chosen for a member. -/
namespace ConfigExchange

/-- The settings of a member, with their defaults. -/
structure Settings where
  /-- How many write buffers there are. -/
  poolSize : Nat := 32
  /-- How many bytes a new write buffer holds without growing. -/
  bufferCapacity : Nat := 8192
  /-- A returned buffer that has grown beyond this is not used again. -/
  retainLimit : Nat := 1048576
  /-- How long a writer waits for its connection and its buffer together. -/
  acquireTimeout : Micros := 5000000
  /-- The largest payload that is sent or accepted. -/
  maxMessageSize : Nat := 10485760
  /-- Whether the member hands out configuration. -/
  configurationEnabled : Bool := true
  /-- How many restricted snapshots are remembered; none if it is 0. -/
  cacheCapacity : Nat := 64
  /-- How long they are remembered. -/
  cacheTtl : Micros := 30000000
  deriving DecidableEq

end ConfigExchange
