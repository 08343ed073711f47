/-! A lock that is handed on in the order in which it was asked for. -/
namespace ConfigExchange

/-- Names whoever asks for something that is shared. -/
abbrev SessionId := Nat

/-- A lock: who has it, and who waits for it, the first to come in front. -/
structure Lock where
  holder : Option SessionId := none
  queue : List SessionId := []
  deriving DecidableEq

namespace Lock

/-- Asks for the lock. If it is free the asker has it at once. -/
def request (lock : Lock) (id : SessionId) : Lock :=
  if lock.holder.isNone then { lock with holder := some id }
  else { lock with queue := lock.queue ++ [id] }

/-- Hands the lock on to the first who waits. -/
def release (lock : Lock) : Lock := ⟨lock.queue.head?, lock.queue.tail⟩

/-- Gives up the lock, or the place in the queue. -/
def withdraw (lock : Lock) (id : SessionId) : Lock :=
  if lock.holder = some id then lock.release else { lock with queue := lock.queue.erase id }

end Lock

end ConfigExchange
