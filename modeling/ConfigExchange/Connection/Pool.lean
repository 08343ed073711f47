import ConfigExchange.Connection.Buffer
import ConfigExchange.Connection.Lock

/-! The pool of write buffers that all connections of a member share. Permits are handed out in the
order in which they were asked for, and a buffer is handed out for each permit. -/
namespace ConfigExchange

/-- A pool of buffers. -/
structure Pool where
  /-- How many bytes a new buffer holds. -/
  bufferCapacity : Nat
  /-- A buffer that has grown beyond this is not kept when it comes back. -/
  retainLimit : Nat
  /-- How many permits nobody has. -/
  free : Nat
  /-- Who waits for a permit, the first to come in front. -/
  waiting : List SessionId := []
  /-- Who was given a permit and did not collect the buffer yet. -/
  granted : List SessionId := []
  /-- The buffers kept for use, the last to come back in front. -/
  recycled : List EmptyBuffer := []
  closed : Bool := false
  deriving DecidableEq

/-- What one finds who comes to collect a buffer. -/
inductive PoolAnswer where
  | buffer (buffer : Buffer)
  | closed
  /-- There is no permit yet. -/
  | pending

namespace Pool

/-- A pool of `size` buffers. -/
def ofSize (size bufferCapacity retainLimit : Nat) : Pool :=
  { bufferCapacity, retainLimit, free := size }

/-- Asks for a permit. A closed pool takes no notice. -/
def request (pool : Pool) (id : SessionId) : Pool :=
  if pool.closed then pool
  else
    match pool.free with
    | 0 => { pool with waiting := pool.waiting ++ [id] }
    | free + 1 => { pool with free, granted := pool.granted ++ [id] }

/-- Passes a permit on to the first who waits. -/
def release (pool : Pool) : Pool :=
  match pool.waiting with
  | [] => { pool with free := pool.free + 1 }
  | id :: waiting => { pool with waiting, granted := pool.granted ++ [id] }

/-- Gives up a permit that was not collected, or the place in the queue. -/
def withdraw (pool : Pool) (id : SessionId) : Pool :=
  if id ∈ pool.granted then ({ pool with granted := pool.granted.erase id } : Pool).release
  else { pool with waiting := pool.waiting.erase id }

/-- Comes to collect a buffer. A closed pool hands out none, not even for a permit. -/
def collect (pool : Pool) (id : SessionId) : PoolAnswer × Pool :=
  if pool.closed then (.closed, pool)
  else if id ∈ pool.granted then
    (.buffer (pool.recycled.headD (.ofCapacity pool.bufferCapacity)),
      { pool with granted := pool.granted.erase id, recycled := pool.recycled.tail })
  else (.pending, pool)

/-- Takes a buffer back, with its permit. It is cleared and kept for use if it has not grown too
large. -/
def giveBack (pool : Pool) (buffer : Buffer) : Pool :=
  if pool.retainLimit < buffer.capacity ∨ pool.closed then pool.release
  else ({ pool with recycled := ⟨buffer.clear, rfl⟩ :: pool.recycled } : Pool).release

/-- Closes the pool. Nobody waits for it any more, and no buffer is kept. -/
def close (pool : Pool) : Pool := { pool with closed := true, waiting := [], recycled := [] }

/-- How a pool is shown. -/
def text (pool : Pool) : String :=
  let free := pool.free
  let capacity := pool.bufferCapacity
  let closed := pool.closed
  s!"BufferPool \x7b available: {free}, buffer_capacity: {capacity}, closed: {closed} \x7d"

/-- A buffer comes from the pool empty. -/
theorem collect_buffer {pool later : Pool} {id : SessionId} {buffer : Buffer}
    (h : pool.collect id = (.buffer buffer, later)) : ∃ capacity, buffer = { capacity } := by
  unfold collect at h
  split at h
  · cases h
  · split at h
    · cases h
      exact ⟨_, EmptyBuffer.eq _⟩
    · cases h

end Pool

end ConfigExchange
