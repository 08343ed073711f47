import ConfigExchange.Bytes

/-! Write buffers: the bytes in them, and how many they hold without growing. -/
namespace ConfigExchange

/-- A write buffer. -/
structure Buffer where
  bytes : Bytes := []
  capacity : Nat
  deriving DecidableEq

namespace Buffer

/-- The least capacity of a buffer that has grown. -/
def leastGrown : Nat := 8

/-- The capacity of a buffer after it was filled up to a length. If that is more than it held, the
capacity at least doubles. -/
def grow (capacity length : Nat) : Nat :=
  if length ≤ capacity then capacity else max (max (2 * capacity) length) leastGrown

/-- Appends bytes. -/
def append (buffer : Buffer) (bytes : Bytes) : Buffer :=
  let all := buffer.bytes ++ bytes
  ⟨all, grow buffer.capacity all.length⟩

/-- Appends byte strings, one after the other. -/
def appendAll (buffer : Buffer) (pieces : List Bytes) : Buffer :=
  let growPast : Nat × Nat → Bytes → Nat × Nat := fun (length, capacity) piece =>
    (length + piece.length, grow capacity (length + piece.length))
  ⟨buffer.bytes ++ pieces.flatten,
    (pieces.foldl growPast (buffer.bytes.length, buffer.capacity)).2⟩

/-- Takes everything out. The buffer holds as much as before. -/
def clear (buffer : Buffer) : Buffer := { buffer with bytes := [] }

/-- How a buffer is shown. -/
def text (buffer : Buffer) : String :=
  let length := buffer.bytes.length
  let capacity := buffer.capacity
  s!"PooledBuffer \x7b len: {length}, capacity: {capacity} \x7d"

/-- The bytes may be put in all at once, but the capacity grows with each piece. -/
theorem appendAll_eq_foldl (buffer : Buffer) (pieces : List Bytes) :
    buffer.appendAll pieces = pieces.foldl append buffer := by
  induction pieces generalizing buffer with
  | nil => simp [appendAll]
  | cons piece pieces ih =>
    rw [List.foldl_cons, ← ih]
    simp [appendAll, append]

end Buffer

/-- A buffer with nothing in it. -/
abbrev EmptyBuffer := { buffer : Buffer // buffer.bytes = [] }

/-- A new buffer. -/
def EmptyBuffer.ofCapacity (capacity : Nat) : EmptyBuffer := ⟨{ capacity }, rfl⟩

theorem EmptyBuffer.eq (buffer : EmptyBuffer) : buffer.1 = { capacity := buffer.1.capacity } := by
  obtain ⟨⟨bytes, capacity⟩, hEmpty⟩ := buffer
  cases hEmpty
  rfl

end ConfigExchange
