import ConfigExchange.Configuration.Snapshot
import ConfigExchange.Duration

/-! Restricted snapshots that were handed out, kept for the next request for the same groups. -/
namespace ConfigExchange

/-- What a kept snapshot is found by: the generation it was taken at and the groups asked for. -/
structure CacheKey where
  generation : UInt64
  groups : NameSet
  deriving DecidableEq

/-- A kept snapshot, and when it was put in. -/
structure CacheEntry where
  key : CacheKey
  snapshot : Snapshot
  insertedAt : Micros
  deriving DecidableEq

/-- Entries in the order of their last use, the latest first. There are at most `capacity`, and one
older than `ttl` counts as absent. -/
structure Cache where
  capacity : Nat
  ttl : Micros
  entries : List CacheEntry := []
  deriving DecidableEq

namespace Cache

def size (cache : Cache) : Nat := cache.entries.length

/-- The entries of other keys. -/
def without (cache : Cache) (key : CacheKey) : List CacheEntry :=
  cache.entries.filter fun entry => decide (entry.key ≠ key)

/-- Looks a key up. A hit makes its entry the latest; an entry that is too old is taken out. -/
def get (cache : Cache) (now : Micros) (key : CacheKey) : Option Snapshot × Cache :=
  match cache.entries.find? fun entry => decide (entry.key = key) with
  | none => (none, cache)
  | some entry =>
    if now - entry.insertedAt < cache.ttl then
      (some entry.snapshot, { cache with entries := entry :: cache.without key })
    else
      (none, { cache with entries := cache.without key })

/-- Keeps a snapshot as the answer to a request for `groups` at its own generation. If there are too
many entries then, the one used longest ago is dropped. -/
def insert (cache : Cache) (now : Micros) (groups : NameSet) (snapshot : Snapshot) : Cache :=
  let key := ⟨snapshot.generation, groups⟩
  { cache with entries := (⟨key, snapshot, now⟩ :: cache.without key).take cache.capacity }

def clear (cache : Cache) : Cache := { cache with entries := [] }

/-- How a cache is shown. -/
def text (cache : Cache) : String :=
  let size := cache.size
  let ttl := cache.ttl.text
  s!"SnapshotCache \x7b len: {size}, ttl: {ttl} \x7d"

end Cache

end ConfigExchange
