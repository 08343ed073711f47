import ConfigExchange.Configuration.Snapshot

/-! Where the configuration comes from. -/
namespace ConfigExchange

/-- Why a source has no snapshot to give. -/
inductive SourceError where
  /-- An edit broke off, so the groups may be half changed. -/
  | poisoned
  | unavailable (reason : String)
  deriving DecidableEq

def SourceError.message : SourceError → String
  | poisoned => "configuration state is poisoned by a panicked writer"
  | unavailable reason => reason

/-- Configuration held in memory. Every edit that is completed counts as one generation. -/
structure Store where
  generation : UInt64 := 0
  groups : GroupMap := ∅
  /-- Whether an edit broke off. -/
  poisoned : Bool := false
  deriving DecidableEq

namespace Store

/-- A store that holds some groups. Of several groups with one name, the last is kept. -/
def ofGroups (groups : List Group) : Store := { groups := GroupMap.ofGroups groups }

/-- Puts a group in the place of the one with its name, which is answered. -/
def put (store : Store) (group : Group) : Option Group × Store :=
  (store.groups.get? group.name,
    { store with
      generation := store.generation + 1
      groups := store.groups.insert group.name group })

/-- Takes a group out and answers it. -/
def remove (store : Store) (name : String) : Option Group × Store :=
  (store.groups.get? name,
    { store with
      generation := store.generation + 1
      groups := store.groups.erase name })

/-- Edits a group, which is created if it is not there: the answers of the edits made, and whether
one broke off. In that case the edits before it stay, and the generation does not count. -/
def update (store : Store) (name : String) (edits : List Group.Edit) :
    List Group.EditAnswer × Bool × Store :=
  let group := (store.groups.get? name).getD { name }
  let (answers, edited, broken) := group.editAll edits
  let groups := store.groups.insert name edited
  if broken then (answers, true, { store with groups, poisoned := true })
  else (answers, false, { store with groups, generation := store.generation + 1 })

def snapshot (store : Store) : Except SourceError Snapshot :=
  if store.poisoned then .error .poisoned
  else .ok (.ofGroups store.generation store.groups.values)

/-- What can be asked of a store. -/
inductive Operation where
  | put (group : Group)
  | remove (name : String)
  | update (name : String) (edits : List Group.Edit)
  | snapshot

/-- What a store answers. -/
inductive Answer where
  /-- The group that was there before. -/
  | previous (group : Option Group)
  /-- The answers of the edits made, and whether one broke off. -/
  | edited (answers : List Group.EditAnswer) (broken : Bool)
  | snapshot (result : Except SourceError Snapshot)

/-- Does what is asked of a store. -/
def perform (store : Store) : Operation → Answer × Store
  | .put group => let (old, store) := store.put group; (.previous old, store)
  | .remove name => let (old, store) := store.remove name; (.previous old, store)
  | .update name edits =>
    let (answers, broken, store) := store.update name edits
    (.edited answers broken, store)
  | .snapshot => (.snapshot store.snapshot, store)

end Store

/-- Something that has a generation and gives snapshots. -/
inductive Source where
  | store (store : Store)
  /-- A source whose answers are laid down: a failure to give a snapshot wins over the snapshot. -/
  | scripted (generation : UInt64) (snapshot : Snapshot) (failure : Option String)

namespace Source

def generation : Source → UInt64
  | store held => held.generation
  | scripted generation _ _ => generation

def snapshot : Source → Except SourceError Snapshot
  | store held => held.snapshot
  | scripted _ _ (some reason) => .error (.unavailable reason)
  | scripted _ snapshot none => .ok snapshot

end Source

end ConfigExchange
