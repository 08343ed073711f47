import ConfigExchange.Configuration.Group

/-! The configuration as it stood at one moment. -/
namespace ConfigExchange

/-- Groups listed under their own names. -/
abbrev GroupMap := NameMap Group

/-- The groups of a list, each under its own name. Of several groups with one name, the last is
kept. -/
def GroupMap.ofGroups (groups : List Group) : GroupMap :=
  NameMap.ofList (groups.map fun group => (group.name, group))

/-- A view of the configuration, with the generation of the source it was taken from. -/
structure Snapshot where
  generation : UInt64
  groups : GroupMap
  deriving DecidableEq

namespace Snapshot

/-- The snapshot of a list of groups. Of several groups with one name, the last is kept. -/
def ofGroups (generation : UInt64) (groups : List Group) : Snapshot :=
  ⟨generation, GroupMap.ofGroups groups⟩

/-- The group with a given name. -/
def group? (snapshot : Snapshot) (name : String) : Option Group := snapshot.groups.get? name

/-- The same view with the requested groups only. Names without a group are left out. -/
def restrict (snapshot : Snapshot) (requested : NameSet) : Snapshot :=
  ofGroups snapshot.generation (requested.names.filterMap snapshot.group?)

end Snapshot

end ConfigExchange
