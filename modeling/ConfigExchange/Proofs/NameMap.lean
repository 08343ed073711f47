import ConfigExchange.NameMap
import Mathlib.Logic.Function.Basic

/-! Name maps seen through lookup. A map is determined by what it gives for each name, and every
operation is described by what it gives afterwards. -/
namespace ConfigExchange

namespace NameMap

variable {α : Type}

theorem lookup_cons_eq (first : String × α) (rest : List (String × α)) (name : String) :
    (first :: rest).lookup name = if name = first.1 then some first.2 else rest.lookup name := by
  rw [List.lookup_cons]
  by_cases h : name = first.1
  · simp [h]
  · simp [h, beq_false_of_ne h]

/-- Where no name occurs twice, an entry is a lookup. -/
theorem mem_iff_lookup_of_distinct {entries : List (String × α)}
    (h : entries.Pairwise fun a b => a.1 ≠ b.1) (name : String) (value : α) :
    (name, value) ∈ entries ↔ entries.lookup name = some value := by
  induction entries with
  | nil => simp
  | cons first rest ih =>
      obtain ⟨hFirst, hRest⟩ := List.pairwise_cons.1 h
      rw [List.mem_cons, lookup_cons_eq]
      by_cases hName : name = first.1
      · have hAbsent : (name, value) ∉ rest := fun hMem => hFirst _ hMem hName.symm
        simp only [hAbsent, or_false, if_pos hName]
        simp [hName, Prod.ext_iff, eq_comm]
      · simp [hName, Prod.ext_iff, ih hRest]

theorem distinct_entries (map : NameMap α) : map.entries.Pairwise fun a b => a.1 ≠ b.1 := by
  refine map.ascending.imp fun h hEq => ?_
  rw [hEq] at h
  exact Text.before_irrefl _ h

theorem mem_entries_iff (map : NameMap α) (name : String) (value : α) :
    (name, value) ∈ map.entries ↔ map.get? name = some value :=
  mem_iff_lookup_of_distinct map.distinct_entries name value

theorem nodup_entries (map : NameMap α) : map.entries.Nodup :=
  map.distinct_entries.imp fun hNe hEq => hNe (congrArg Prod.fst hEq)

/-- Two maps that give the same for every name are equal. -/
theorem ext_get? {a b : NameMap α} (h : ∀ name, a.get? name = b.get? name) : a = b := by
  have hMem : ∀ entry, entry ∈ a.entries ↔ entry ∈ b.entries := by
    intro entry
    rw [mem_entries_iff, mem_entries_iff, h]
  have hPerm :=
    (List.perm_ext_iff_of_nodup a.nodup_entries b.nodup_entries).2 fun {entry} => hMem entry
  have hEntries : a.entries = b.entries := by
    refine hPerm.eq_of_pairwise (fun x y _ _ hxy hyx => ?_) a.ascending b.ascending
    exact absurd hyx (Text.before_asymm hxy)
  cases a
  cases b
  simp_all

theorem contains_iff {map : NameMap α} {name : String} :
    map.contains name = true ↔ name ∈ map.names := by
  rw [contains, Option.isSome_iff_exists]
  simp only [← mem_entries_iff, names, List.mem_map]
  constructor
  · rintro ⟨value, h⟩
    exact ⟨_, h, rfl⟩
  · rintro ⟨entry, h, rfl⟩
    exact ⟨entry.2, h⟩

/-! ### Insertion and removal -/

theorem get?_insert (map : NameMap α) (name other : String) (value : α) :
    (map.insert name value).get? other = if other = name then some value else map.get? other := by
  refine Option.ext fun found => ?_
  rw [← mem_entries_iff]
  by_cases hName : other = name
  · subst hName
    simp [insert, Text.before_irrefl, eq_comm]
  · have hSplit : Text.Before other name ∨ Text.Before name other := by
      rcases Decidable.em (Text.Before other name) with h | h
      · exact .inl h
      · exact .inr (Decidable.byContradiction fun h' => hName (Text.eq_of_not_before h h'))
    simp only [insert, List.mem_append, List.mem_filter, List.mem_cons, Prod.mk.injEq, hName,
      false_and, false_or, decide_eq_true_eq, if_false, ← mem_entries_iff]
    rw [← and_or_left, and_iff_left hSplit]

theorem get?_erase (map : NameMap α) (name other : String) :
    (map.erase name).get? other = if other = name then none else map.get? other := by
  refine Option.ext fun found => ?_
  rw [← mem_entries_iff]
  by_cases hName : other = name
  · simp [erase, hName]
  · simp [erase, hName, mem_entries_iff]

/-! A map after a change finds what a function finds that was changed at one name. -/

theorem get?_insert_eq (map : NameMap α) (name : String) (value : α) :
    (map.insert name value).get? = Function.update map.get? name (some value) := by
  funext other
  rw [get?_insert, Function.update_apply]

theorem get?_erase_eq (map : NameMap α) (name : String) :
    (map.erase name).get? = Function.update map.get? name none := by
  funext other
  rw [get?_erase, Function.update_apply]

theorem contains_insert (map : NameMap α) (name : String) (value : α) :
    (map.insert name value).contains = Function.update map.contains name true := by
  funext other
  rw [contains, get?_insert, Function.update_apply, apply_ite Option.isSome]
  rfl

theorem contains_erase (map : NameMap α) (name : String) :
    (map.erase name).contains = Function.update map.contains name false := by
  funext other
  rw [contains, get?_erase, Function.update_apply, apply_ite Option.isSome]
  rfl

/-! ### Maps of lists -/

/-- What a list gives for a name is what the entries of that name alone give. -/
theorem lookup_eq_head?_filter (entries : List (String × α)) (name : String) :
    entries.lookup name = ((entries.filter fun entry => entry.1 = name).head?).map (·.2) := by
  induction entries with
  | nil => rfl
  | cons first rest ih =>
      rw [lookup_cons_eq, List.filter_cons, ih]
      by_cases h : first.1 = name
      · simp [h]
      · simp [h, Ne.symm h]

/-- Sorting by name moves no entry past another one with the same name. -/
theorem filter_mergeSort (entries : List (String × α)) (name : String) :
    ((entries.mergeSort notAfter).filter fun entry => entry.1 = name) =
      entries.filter fun entry => entry.1 = name := by
  have hSame : (entries.filter fun entry => entry.1 = name).Pairwise
      fun a b => notAfter a b = true := by
    refine List.pairwise_of_forall_mem_list fun a ha b hb => ?_
    have hEq : a.1 = b.1 := by simp_all
    simp [notAfter, hEq, Text.before_irrefl]
  have hSub := (List.sublist_mergeSort notAfter_trans notAfter_total hSame
    List.filter_sublist).filter fun entry => decide (entry.1 = name)
  rw [List.filter_filter] at hSub
  simp only [Bool.and_self] at hSub
  have hLength := ((List.mergeSort_perm entries notAfter).filter
    fun entry => decide (entry.1 = name)).length_eq
  exact (hSub.eq_of_length hLength.symm).symm

theorem lookup_foldr_keepLater {entries : List (String × α)}
    (h : entries.Pairwise fun a b => ¬ Text.Before b.1 a.1) (name : String) :
    (entries.foldr keepLater []).lookup name = entries.reverse.lookup name := by
  induction entries with
  | nil => rfl
  | cons first rest ih =>
      have hAscending := pairwise_foldr_keepLater h
      rw [List.reverse_cons, List.lookup_append, ← ih (List.pairwise_cons.1 h).2]
      rw [List.foldr_cons] at hAscending ⊢
      generalize rest.foldr keepLater [] = kept at hAscending ⊢
      cases kept with
      | nil => simp [keepLater]
      | cons later others =>
          by_cases hSame : first.1 = later.1
          · by_cases hName : name = later.1 <;> simp [keepLater, hSame, hName, lookup_cons_eq]
          · rw [keepLater, if_neg hSame] at hAscending ⊢
            rw [lookup_cons_eq first, lookup_cons_eq first]
            by_cases hName : name = first.1
            · have hAbsent : (later :: others).lookup name = none := by
                rw [List.lookup_eq_none_iff]
                intro entry hEntry
                have hBefore := (List.pairwise_cons.1 hAscending).1 entry hEntry
                simp only [hName, bne_iff_ne, ne_eq]
                intro hEq
                exact Text.before_irrefl _ (hEq ▸ hBefore)
              rw [hAbsent, if_pos hName, if_pos hName, Option.none_or]
            · simp [hName]

/-- Of several entries with one name, the last of the list counts. -/
theorem get?_ofList (entries : List (String × α)) (name : String) :
    (ofList entries).get? name = entries.reverse.lookup name := by
  have hSorted := List.pairwise_mergeSort notAfter_trans notAfter_total entries
  rw [get?, ofList, lookup_foldr_keepLater (hSorted.imp (by simp [notAfter])),
    lookup_eq_head?_filter, lookup_eq_head?_filter, List.filter_reverse, List.filter_reverse,
    filter_mergeSort]

/-- The entries of a map, in whatever order they are listed, make up the map. -/
theorem ofList_of_perm {entries : List (String × α)} {map : NameMap α}
    (h : entries.Perm map.entries) : ofList entries = map := by
  have hReversed : entries.reverse.Perm map.entries := (List.reverse_perm entries).trans h
  have hDistinct : entries.reverse.Pairwise fun a b => a.1 ≠ b.1 :=
    hReversed.symm.pairwise map.distinct_entries fun hNe => Ne.symm hNe
  refine ext_get? fun name => Option.ext fun value => ?_
  rw [get?_ofList, ← mem_iff_lookup_of_distinct hDistinct, hReversed.mem_iff, mem_entries_iff]

end NameMap

namespace NameSet

theorem mem_names_ofList (names : List String) (name : String) :
    name ∈ (ofList names).names ↔ name ∈ names := by
  rw [← NameMap.contains_iff, NameMap.contains, ofList, NameMap.get?_ofList]
  simp [List.lookup_isSome_iff]

/-- A set of names is determined by which names are in it. -/
theorem ext_names {a b : NameSet} (h : ∀ name, name ∈ a.names ↔ name ∈ b.names) : a = b := by
  refine NameMap.ext_get? fun name => ?_
  have hSome : (a.get? name).isSome = (b.get? name).isSome := by
    rw [Bool.eq_iff_iff]
    exact NameMap.contains_iff.trans ((h name).trans NameMap.contains_iff.symm)
  cases hA : a.get? name <;> cases hB : b.get? name <;> simp_all

theorem pairwise_names (set : NameSet) : set.names.Pairwise Text.Before :=
  List.pairwise_map.2 set.ascending

theorem nodup_of_pairwise {names : List String} (hNames : names.Pairwise Text.Before) :
    names.Nodup := by
  refine hNames.imp fun {a b} hBefore hEq => ?_
  rw [hEq] at hBefore
  exact Text.before_irrefl b hBefore

/-- Names in ascending order are listed as the set that they make up. -/
theorem names_eq_of_pairwise {set : NameSet} {names : List String}
    (hNames : names.Pairwise Text.Before) (hSame : ∀ name, name ∈ set.names ↔ name ∈ names) :
    set.names = names := by
  have hPerm := (List.perm_ext_iff_of_nodup (nodup_of_pairwise set.pairwise_names)
    (nodup_of_pairwise hNames)).2 fun {name} => hSame name
  exact hPerm.eq_of_pairwise (fun _ _ _ _ hab hba => absurd hba (Text.before_asymm hab))
    set.pairwise_names hNames

end NameSet

end ConfigExchange
