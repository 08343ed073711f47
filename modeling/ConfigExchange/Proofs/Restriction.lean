import ConfigExchange.Proofs.Groups
import ConfigExchange.Proofs.Store.History

/-! Views of the configuration that are restricted to requested names. A restricted view is the part
of the whole one that lies under these names. So restrictions follow one another as sets of names
intersect, and nothing outside of a request is seen in its answer. -/
namespace ConfigExchange

namespace NameMap

variable {α : Type}

/-- The part of a map that lies under the names of a set. -/
def part (map : NameMap α) (names : NameSet) : NameMap α where
  entries := map.entries.filter fun entry => names.contains entry.1
  ascending := map.ascending.filter _

theorem get?_part (map : NameMap α) (names : NameSet) (name : String) :
    (map.part names).get? name = if names.contains name then map.get? name else none := by
  apply Option.ext
  intro value
  rw [← mem_entries_iff, part, List.mem_filter, mem_entries_iff]
  by_cases hName : names.contains name = true
  · simp [hName]
  · simp [hName]

theorem names_part (map : NameMap α) (names : NameSet) :
    (map.part names).names = map.names.filter names.contains := by
  rw [NameMap.names, NameMap.names, List.filter_map]
  rfl

end NameMap

namespace NameSet

/-- The names that are in both of two sets. -/
def inter (first second : NameSet) : NameSet := NameMap.part first second

theorem mem_names_inter (first second : NameSet) (name : String) :
    name ∈ (inter first second).names ↔ name ∈ first.names ∧ name ∈ second.names := by
  rw [inter, NameMap.names_part, List.mem_filter, NameMap.contains_iff]

theorem inter_self (names : NameSet) : inter names names = names := by
  apply ext_names
  intro name
  rw [mem_names_inter, and_self]

theorem inter_comm (first second : NameSet) : inter first second = inter second first := by
  apply ext_names
  intro name
  rw [mem_names_inter, mem_names_inter, and_comm]

end NameSet

/-- A part of a part lies under the names of both sets. -/
theorem NameMap.part_part {α : Type} (map : NameMap α) (first second : NameSet) :
    (map.part first).part second = map.part (NameSet.inter first second) := by
  apply ext_get?
  intro name
  rw [get?_part, get?_part, get?_part]
  have hBoth : (NameSet.inter first second).contains name = true ↔
      first.contains name = true ∧ second.contains name = true := by
    rw [contains_iff, contains_iff, contains_iff, NameSet.mem_names_inter]
  by_cases hFirst : first.contains name = true <;>
    by_cases hSecond : second.contains name = true <;>
    simp [hBoth, hFirst, hSecond]

namespace Snapshot

variable {snapshot : Snapshot}

/-- A restricted view is the part of the whole one that lies under the requested names. -/
theorem restrict_eq (hKeyed : GroupMap.Keyed snapshot.groups) (requested : NameSet) :
    snapshot.restrict requested = ⟨snapshot.generation, snapshot.groups.part requested⟩ := by
  have hGroups : (snapshot.restrict requested).groups = snapshot.groups.part requested := by
    apply NameMap.ext_get?
    intro name
    rw [NameMap.get?_part]
    exact group?_restrict hKeyed requested name
  rw [← hGroups]
  rfl

theorem keyed_restrict (snapshot : Snapshot) (requested : NameSet) :
    GroupMap.Keyed (snapshot.restrict requested).groups :=
  GroupMap.keyed_ofGroups _

theorem restrict_restrict (hKeyed : GroupMap.Keyed snapshot.groups) (first second : NameSet) :
    (snapshot.restrict first).restrict second = snapshot.restrict (NameSet.inter first second) := by
  rw [restrict_eq (snapshot.keyed_restrict first), restrict_eq hKeyed, restrict_eq hKeyed,
    NameMap.part_part]

/-- A restricted view shows what is found under the requested names, and nothing else. -/
theorem restrict_congr {other : Snapshot} {requested : NameSet}
    (hGeneration : other.generation = snapshot.generation)
    (hAgree : ∀ name ∈ requested.names, other.group? name = snapshot.group? name) :
    other.restrict requested = snapshot.restrict requested := by
  rw [restrict, restrict, hGeneration, List.filterMap_congr hAgree]

/-- Of a snapshot that was built from any list of groups, the last of each name counting, a
restriction keeps the requested groups as they are, in the order of their names, and the generation.
One restriction after another is that to the names in both, so it changes nothing to repeat one, and
the order of two does not matter. Snapshots of one generation that agree under the requested names
have one restriction. -/
theorem restriction_laws (generation : UInt64) (groups : List Group) (requested second : NameSet) :
    let snapshot := ofGroups generation groups
    let restricted := snapshot.restrict requested
    (∀ name, snapshot.group? name = groups.reverse.find? fun group => group.name = name) ∧
    restricted.generation = generation ∧
    restricted.groups.names = snapshot.groups.names.filter requested.contains ∧
    restricted.groups.names.Pairwise Text.Before ∧
    (∀ name ∈ restricted.groups.names, restricted.group? name = snapshot.group? name) ∧
    (∀ name, name ∈ (NameSet.inter requested second).names ↔
      name ∈ requested.names ∧ name ∈ second.names) ∧
    restricted.restrict second = snapshot.restrict (NameSet.inter requested second) ∧
    restricted.restrict requested = restricted ∧
    restricted.restrict second = (snapshot.restrict second).restrict requested ∧
    ∀ other : Snapshot, other.generation = generation →
      (∀ name ∈ requested.names, other.group? name = snapshot.group? name) →
      other.restrict requested = restricted := by
  intro snapshot restricted
  have hKeyed : GroupMap.Keyed snapshot.groups := GroupMap.keyed_ofGroups groups
  have hRestricted : restricted = ⟨generation, snapshot.groups.part requested⟩ :=
    restrict_eq hKeyed requested
  have hNames : restricted.groups.names = snapshot.groups.names.filter requested.contains := by
    rw [hRestricted, NameMap.names_part]
  have hThen (names : NameSet) :
      restricted.restrict names = snapshot.restrict (NameSet.inter requested names) :=
    restrict_restrict hKeyed requested names
  refine ⟨fun name => congrFun (Store.get?_ofGroups groups) name, rfl, hNames,
    List.pairwise_map.2 restricted.groups.ascending, ?_, NameSet.mem_names_inter requested second,
    hThen second, ?_, ?_, ?_⟩
  · intro name hName
    rw [hNames] at hName
    rw [group?_restrict hKeyed, if_pos (List.mem_filter.1 hName).2]
  · rw [hThen, NameSet.inter_self]
  · rw [hThen, restrict_restrict hKeyed, NameSet.inter_comm]
  · intro other hGeneration hAgree
    exact restrict_congr hGeneration hAgree

/-- A group that was listed twice, in a request that also names one that is not there. Another
snapshot without the group that was not requested has the same restriction. -/
theorem restriction_laws_repeated_group :
    let web : Group := { name := "web", logFileSizeLimit := some 7 }
    let snapshot := ofGroups 3 [{ name := "web" }, { name := "app" }, web]
    let other := ofGroups 3 [web]
    let requested := NameSet.ofList ["web", "none"]
    let restricted := snapshot.restrict requested
    snapshot.group? "web" = some web ∧ other.generation = 3 ∧
      (∀ name ∈ requested.names, other.group? name = snapshot.group? name) ∧
      other.restrict requested = restricted ∧ restricted.restrict requested = restricted := by
  intro web snapshot other requested restricted
  obtain ⟨hFound, -, -, -, -, -, -, hAgain, -, hSame⟩ :=
    restriction_laws 3 [{ name := "web" }, { name := "app" }, web] requested requested
  obtain ⟨hOther, -⟩ := restriction_laws 3 [web] requested requested
  have hAgree : ∀ name ∈ requested.names, other.group? name = snapshot.group? name := by
    intro name hName
    have hCases : name ∈ ["web", "none"] := (NameSet.mem_names_ofList _ name).1 hName
    rw [hOther, hFound]
    rcases List.mem_pair.1 hCases with rfl | rfl
    · rfl
    · rfl
  exact ⟨hFound "web", rfl, hAgree, hSame other rfl hAgree, hAgain⟩

end Snapshot

end ConfigExchange
