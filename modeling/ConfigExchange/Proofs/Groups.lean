import ConfigExchange.Configuration.Snapshot
import ConfigExchange.Proofs.NameMap

/-! Groups that are listed under their own names. Every map of groups in the library is of this
kind, and so is made up of its values alone. -/
namespace ConfigExchange

namespace GroupMap

/-- A map that lists every group under the group's own name. -/
def Keyed (groups : GroupMap) : Prop := ∀ entry ∈ groups.entries, entry.2.name = entry.1

theorem Keyed.name_eq {groups : GroupMap} (hKeyed : Keyed groups) {name : String} {group : Group}
    (h : groups.get? name = some group) : group.name = name :=
  hKeyed (name, group) ((NameMap.mem_entries_iff groups name group).2 h)

theorem keyed_of_get? {groups : GroupMap}
    (h : ∀ name group, groups.get? name = some group → group.name = name) : Keyed groups :=
  fun entry hEntry => h entry.1 entry.2 ((NameMap.mem_entries_iff groups entry.1 entry.2).1 hEntry)

theorem keyed_empty : Keyed ∅ := by
  intro entry hEntry
  exact absurd hEntry List.not_mem_nil

theorem keyed_ofGroups (groups : List Group) : Keyed (ofGroups groups) := by
  intro entry hEntry
  have hMem : entry ∈ groups.map fun group => (group.name, group) :=
    List.mem_mergeSort.1 (NameMap.mem_foldr_keepLater hEntry)
  obtain ⟨group, -, rfl⟩ := List.mem_map.1 hMem
  rfl

theorem Keyed.insert {groups : GroupMap} (hKeyed : Keyed groups) {name : String} {group : Group}
    (hName : group.name = name) : Keyed (NameMap.insert groups name group) := by
  apply keyed_of_get?
  intro other found h
  rw [NameMap.get?_insert] at h
  by_cases hOther : other = name
  · rw [if_pos hOther] at h
    rw [← Option.some_inj.1 h, hName, hOther]
  · rw [if_neg hOther] at h
    exact hKeyed.name_eq h

theorem Keyed.erase {groups : GroupMap} (hKeyed : Keyed groups) (name : String) :
    Keyed (NameMap.erase groups name) := by
  intro entry hEntry
  exact hKeyed entry (List.mem_filter.1 hEntry).1

/-- Listing the groups under their names is what the entries of such a map are. -/
theorem Keyed.map_values {groups : GroupMap} (hKeyed : Keyed groups) :
    (groups.values.map fun group => (group.name, group)) = groups.entries := by
  rw [NameMap.values, List.map_map]
  conv => rhs; rw [← List.map_id groups.entries]
  apply List.map_congr_left
  intro entry hEntry
  show (entry.2.name, entry.2) = entry
  rw [hKeyed entry hEntry]

/-- Such a map is made up of its groups. -/
theorem Keyed.ofGroups_values {groups : GroupMap} (hKeyed : Keyed groups) :
    ofGroups groups.values = groups := by
  rw [ofGroups, hKeyed.map_values]
  exact NameMap.ofList_of_perm (.refl _)

theorem Keyed.distinct_names {groups : GroupMap} (hKeyed : Keyed groups) :
    groups.values.Pairwise fun a b => a.name ≠ b.name := by
  have hDistinct := groups.distinct_entries
  rw [← hKeyed.map_values, List.pairwise_map] at hDistinct
  exact hDistinct

/-- Where no two groups have one name, a name gives the group of that name. -/
theorem get?_ofGroups_of_distinct {groups : List Group}
    (hDistinct : groups.Pairwise fun a b => a.name ≠ b.name) (name : String) (group : Group) :
    (ofGroups groups).get? name = some group ↔ group ∈ groups ∧ group.name = name := by
  have hReversed : (groups.map fun group => (group.name, group)).reverse.Pairwise
      fun a b => a.1 ≠ b.1 := by
    rw [List.pairwise_reverse, List.pairwise_map]
    exact hDistinct.imp Ne.symm
  rw [ofGroups, NameMap.get?_ofList, ← NameMap.mem_iff_lookup_of_distinct hReversed]
  simp only [List.mem_reverse, List.mem_map, Prod.mk.injEq]
  constructor
  · rintro ⟨found, hFound, hName, rfl⟩
    exact ⟨hFound, hName⟩
  · rintro ⟨hGroup, hName⟩
    exact ⟨group, hGroup, hName, rfl⟩

end GroupMap

namespace Snapshot

/-- A restricted view holds the requested groups that the whole one has, and nothing else. -/
theorem group?_restrict {snapshot : Snapshot} (hKeyed : GroupMap.Keyed snapshot.groups)
    (requested : NameSet) (name : String) :
    (snapshot.restrict requested).group? name =
      if requested.contains name then snapshot.group? name else none := by
  have hDistinct : (requested.names.filterMap snapshot.group?).Pairwise
      fun a b => a.name ≠ b.name := by
    rw [List.pairwise_filterMap, NameMap.names, List.pairwise_map]
    refine requested.distinct_entries.imp fun hNe a ha b hb => ?_
    rw [hKeyed.name_eq ha, hKeyed.name_eq hb]
    exact hNe
  refine Option.ext fun group => ?_
  show (GroupMap.ofGroups (requested.names.filterMap snapshot.group?)).get? name = some group ↔ _
  rw [GroupMap.get?_ofGroups_of_distinct hDistinct, List.mem_filterMap]
  by_cases hRequested : requested.contains name
  · rw [if_pos hRequested]
    constructor
    · rintro ⟨⟨other, -, hOther⟩, hName⟩
      rw [hKeyed.name_eq hOther] at hName
      rw [← hName]
      exact hOther
    · intro hFound
      exact ⟨⟨name, NameMap.contains_iff.1 hRequested, hFound⟩, hKeyed.name_eq hFound⟩
  · rw [if_neg hRequested]
    constructor
    · rintro ⟨⟨other, hMem, hOther⟩, hName⟩
      rw [hKeyed.name_eq hOther] at hName
      rw [hName] at hMem
      exact absurd (NameMap.contains_iff.2 hMem) hRequested
    · intro hFound
      cases hFound

end Snapshot

end ConfigExchange
