import ConfigExchange.Proofs.Body

/-! Bodies in which a group may be named twice. A body that was written is read back in full if the
names of its groups differ, and otherwise the first name that is repeated is reported. -/
namespace ConfigExchange

namespace Body

/-- Groups whose number fits the head of a list, and each of which fits. -/
structure GroupsFit (groups : List Group) : Prop where
  count : groups.length < 0x100000000
  each : ∀ group ∈ groups, GroupFits group

instance (groups : List Group) : Decidable (GroupsFit groups) :=
  decidable_of_iff (groups.length < 0x100000000 ∧ ∀ group ∈ groups, GroupFits group)
    ⟨fun h => ⟨h.1, h.2⟩, fun h => ⟨h.count, h.each⟩⟩

/-- The name of the first group of a list that has the name of a group before it. -/
inductive FirstRepeat : List Group → String → Prop where
  | mk {before after : List Group} {group : Group}
      (hBefore : before.Pairwise fun a b => a.name ≠ b.name)
      (hGroup : ∃ earlier ∈ before, earlier.name = group.name) :
      FirstRepeat (before ++ group :: after) group.name

theorem firstRepeated?_eq_none_iff (seen names : List String) :
    firstRepeated? seen names = none ↔
      names.Pairwise (· ≠ ·) ∧ ∀ name ∈ names, name ∉ seen := by
  refine ⟨fun hNone => ?_, fun h => firstRepeated?_eq_none h.1 seen h.2⟩
  induction names generalizing seen with
  | nil => exact ⟨.nil, fun name hName => absurd hName List.not_mem_nil⟩
  | cons first rest ih =>
      rw [firstRepeated?] at hNone
      by_cases hSeen : first ∈ seen
      · rw [if_pos hSeen] at hNone
        cases hNone
      · rw [if_neg hSeen] at hNone
        obtain ⟨hRest, hNew⟩ := ih _ hNone
        refine ⟨List.pairwise_cons.2 ⟨?_, hRest⟩, List.forall_mem_cons.2 ⟨hSeen, ?_⟩⟩
        · rintro name hName rfl
          exact hNew _ hName List.mem_cons_self
        · exact fun name hName hMem => hNew name hName (List.mem_cons_of_mem _ hMem)

/-- The name that is found stands behind names that are all different and new, and is one of those
or was seen before. -/
theorem firstRepeated?_eq_some_iff (seen names : List String) (name : String) :
    firstRepeated? seen names = some name ↔
      ∃ before after, names = before ++ name :: after ∧ before.Pairwise (· ≠ ·) ∧
        (∀ other ∈ before, other ∉ seen) ∧ (name ∈ before ∨ name ∈ seen) := by
  induction names generalizing seen with
  | nil => simp [firstRepeated?]
  | cons first rest ih =>
      rw [firstRepeated?]
      by_cases hSeen : first ∈ seen
      · rw [if_pos hSeen]
        constructor
        · intro hName
          cases hName
          exact ⟨[], rest, rfl, .nil, fun other hOther => absurd hOther List.not_mem_nil,
            .inr hSeen⟩
        · rintro ⟨before, after, hNames, -, hNew, -⟩
          cases before with
          | nil =>
              cases hNames
              rfl
          | cons =>
              cases hNames
              exact absurd hSeen (hNew first List.mem_cons_self)
      · rw [if_neg hSeen, ih]
        constructor
        · rintro ⟨before, after, rfl, hBefore, hNew, hName⟩
          refine ⟨first :: before, after, rfl, List.pairwise_cons.2 ⟨?_, hBefore⟩,
            List.forall_mem_cons.2 ⟨hSeen, ?_⟩, ?_⟩
          · rintro other hOther rfl
            exact hNew _ hOther List.mem_cons_self
          · exact fun other hOther hMem => hNew other hOther (List.mem_cons_of_mem _ hMem)
          · rcases hName with hName | hName
            · exact .inl (List.mem_cons_of_mem _ hName)
            · rcases List.mem_cons.1 hName with rfl | hName
              · exact .inl List.mem_cons_self
              · exact .inr hName
        · rintro ⟨before, after, hNames, hBefore, hNew, hName⟩
          cases before with
          | nil =>
              cases hNames
              rcases hName with hName | hName
              · exact absurd hName List.not_mem_nil
              · exact absurd hName hSeen
          | cons other before =>
              cases hNames
              obtain ⟨hFirst, hRest⟩ := List.pairwise_cons.1 hBefore
              refine ⟨before, after, rfl, hRest, ?_, ?_⟩
              · intro later hLater hMem
                rcases List.mem_cons.1 hMem with rfl | hMem
                · exact hFirst _ hLater rfl
                · exact hNew later (List.mem_cons_of_mem _ hLater) hMem
              · rcases hName with hName | hName
                · rcases List.mem_cons.1 hName with rfl | hName
                  · exact .inr List.mem_cons_self
                  · exact .inl hName
                · exact .inr (List.mem_cons_of_mem _ hName)

theorem firstRepeated?_groups_eq_none_iff (groups : List Group) :
    firstRepeated? [] (groups.map (·.name)) = none ↔
      groups.Pairwise fun a b => a.name ≠ b.name := by
  rw [firstRepeated?_eq_none_iff, List.pairwise_map]
  exact and_iff_left fun name _ => List.not_mem_nil

theorem firstRepeated?_groups_eq_some_iff (groups : List Group) (name : String) :
    firstRepeated? [] (groups.map (·.name)) = some name ↔ FirstRepeat groups name := by
  rw [firstRepeated?_eq_some_iff]
  constructor
  · rintro ⟨before, after, hNames, hBefore, -, hName⟩
    obtain ⟨front, back, rfl, rfl, hBack⟩ := List.map_eq_append_iff.1 hNames
    obtain ⟨group, rest, rfl, rfl, rfl⟩ := List.map_eq_cons_iff.1 hBack
    refine .mk (List.pairwise_map.1 hBefore) ?_
    rcases hName with hName | hName
    · exact List.mem_map.1 hName
    · exact absurd hName List.not_mem_nil
  · intro hRepeat
    cases hRepeat with
    | @mk before after group hBefore hGroup =>
        refine ⟨before.map (·.name), after.map (·.name), by simp, List.pairwise_map.2 hBefore,
          fun other _ => List.not_mem_nil, .inl (List.mem_map.2 hGroup)⟩

end Body

namespace Snapshot

/-- A body that was written is read as the snapshot of its groups if their names differ, and is
refused with the first repeated name if not, whatever follows it. So every snapshot is read back. -/
theorem ofBody_written :
    (∀ (generation : UInt64) (groups : List Group) (rest : Bytes), Body.GroupsFit groups →
      (∀ snapshot, ofBody (Body.write generation groups ++ rest) = .ok snapshot ↔
        (groups.Pairwise fun a b => a.name ≠ b.name) ∧ snapshot = .ofGroups generation groups) ∧
      (∀ error, ofBody (Body.write generation groups ++ rest) = .error error ↔
        ∃ name, Body.FirstRepeat groups name ∧ error = .duplicateGroup name ∧
          error.message = s!"malformed message body: duplicate group '{name}'")) ∧
    (∀ snapshot : Snapshot, snapshot.Obtainable → Body.GroupsFit snapshot.groups.values →
      ofBody snapshot.toBody = .ok snapshot) := by
  constructor
  · intro generation groups rest hFit
    rw [Body.ofBody_write generation hFit.count hFit.each rest,
      ← Body.firstRepeated?_groups_eq_none_iff]
    simp only [← Body.firstRepeated?_groups_eq_some_iff]
    cases Body.firstRepeated? [] (groups.map (·.name)) with
    | none => simp [eq_comm]
    | some name =>
        refine ⟨fun snapshot => by simp, fun error => ⟨fun hError => ?_, ?_⟩⟩
        · cases hError
          exact ⟨name, rfl, rfl, rfl⟩
        · rintro ⟨other, hName, rfl, -⟩
          rw [Option.some_inj.1 hName]
  · intro snapshot hSnapshot hFit
    exact ofBody_toBody_of_fit hSnapshot hFit.count hFit.each

/-- Of groups named b, a and b the last one repeats a name; the first two alone are read back. -/
theorem ofBody_written_groups :
    let a : Group := { name := "a" }
    let b : Group := { name := "b" }
    (Body.GroupsFit [b, a, b] ∧
      ofBody (Body.write 7 [b, a, b] ++ [0xff]) = .error (.duplicateGroup "b")) ∧
    (Body.GroupsFit [b, a] ∧ ofBody (Body.write 7 [b, a] ++ [0xff]) = .ok (ofGroups 7 [b, a])) := by
  intro a b
  have hRepeated : Body.GroupsFit [b, a, b] := by decide
  have hDistinct : Body.GroupsFit [b, a] := by decide
  refine ⟨⟨hRepeated, ?_⟩, hDistinct, ?_⟩
  · have hRepeat : Body.FirstRepeat ([b, a] ++ b :: []) "b" :=
      .mk (by decide) ⟨b, List.mem_cons_self, rfl⟩
    exact ((ofBody_written.1 7 [b, a, b] [0xff] hRepeated).2 _).2 ⟨"b", hRepeat, rfl, rfl⟩
  · exact ((ofBody_written.1 7 [b, a] [0xff] hDistinct).1 _).2 ⟨by decide, rfl⟩

end Snapshot

end ConfigExchange
