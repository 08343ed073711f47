import ConfigExchange.Proofs.Body.Repeats
import ConfigExchange.Proofs.MessagePack.Reader

/-! The forms of a snapshot. In a body, and in each of its groups, the fields may stand in any order
and among entries that are not known; the groups may be listed in any order; and every value may be
written in any of its forms. All of this is read as the same snapshot. -/
namespace ConfigExchange

open MessagePack

namespace Body

/-! ### Records -/

/-- An entry that is none of the fields: its key is a string, and no field has that name. -/
def Unknown (fields : List String) (entry : Value × Value) : Prop :=
  ∃ key, entry.1 = .str key ∧ ∀ field ∈ fields, Text.utf8 field ≠ key

/-- The entries that give fields under their names. -/
def fieldEntries (fields : List (String × Value)) : List (Value × Value) :=
  fields.map fun field => (textValue field.1, field.2)

/-- A map that has these fields, in any order, and besides them only entries that are not known. -/
inductive RecordForm (fields : List (String × Value)) : Value → Prop where
  | mk {entries extras : List (Value × Value)}
      (hExtras : ∀ extra ∈ extras, Unknown (fields.map (·.1)) extra)
      (hEntries : entries.Perm (fieldEntries fields ++ extras)) :
      RecordForm fields (.map entries)

/-- The field that an entry gives, and its value. -/
def given? (fields : List String) (entry : Value × Value) : Option (Nat × Value) :=
  (field? fields entry.1).join.map fun i => (i, entry.2)

/-- Entries that give no field twice are collected, the last one in front. -/
theorem collect_eq (fields : List String) (entries : List (Value × Value))
    (hKeys : ∀ entry ∈ entries, field? fields entry.1 ≠ none) (found : List (Nat × Value))
    (hDistinct : (entries.filterMap (given? fields) ++ found).Pairwise fun a b => a.1 ≠ b.1) :
    collect fields entries found = some ((entries.filterMap (given? fields)).reverse ++ found) := by
  induction entries generalizing found with
  | nil => rfl
  | cons entry rest ih =>
      obtain ⟨key, value⟩ := entry
      obtain ⟨hKey, hRest⟩ := List.forall_mem_cons.1 hKeys
      rw [collect]
      cases hField : field? fields key with
      | none => exact absurd hField hKey
      | some known =>
          cases known with
          | none =>
              have hGiven : given? fields (key, value) = none := by simp [given?, hField]
              rw [List.filterMap_cons_none hGiven] at hDistinct ⊢
              exact ih hRest found hDistinct
          | some i =>
              have hGiven : given? fields (key, value) = some (i, value) := by
                simp [given?, hField]
              rw [List.filterMap_cons_some hGiven] at hDistinct ⊢
              obtain ⟨hFirst, -⟩ := List.pairwise_cons.1 hDistinct
              have hAbsent : found.lookup i = none := by
                rw [List.lookup_eq_none_iff]
                intro other hOther
                simpa using hFirst other (List.mem_append_right _ hOther)
              have hNext : (rest.filterMap (given? fields) ++ (i, value) :: found).Pairwise
                  fun a b => a.1 ≠ b.1 :=
                List.perm_middle.symm.pairwise hDistinct fun hNe => Ne.symm hNe
              simp only [hAbsent, Option.isSome_none, Bool.false_eq_true, if_false,
                ih hRest _ hNext, List.reverse_cons, List.append_assoc, List.singleton_append]

theorem given?_of_unknown {fields : List String} {entry : Value × Value}
    (hUnknown : Unknown fields entry) :
    field? fields entry.1 = some none ∧ given? fields entry = none := by
  obtain ⟨key, hKey, hNone⟩ := hUnknown
  have hField : field? fields entry.1 = some none := by
    rw [hKey, field?, List.findIdx?_eq_none_iff.2]
    simpa using hNone
  exact ⟨hField, by simp [given?, hField]⟩

/-- The place of a name among names that differ. -/
theorem findIdx?_name_eq_some_iff {names : List String} (hDistinct : names.Pairwise (· ≠ ·))
    {name : String} {i : Nat} :
    (names.findIdx? fun field => field = name) = some i ↔ names[i]? = some name := by
  rw [List.findIdx?_eq_some_iff_getElem]
  constructor
  · rintro ⟨hLess, hName, -⟩
    rw [List.getElem?_eq_getElem hLess, of_decide_eq_true hName]
  · intro hName
    obtain ⟨hLess, rfl⟩ := List.getElem?_eq_some_iff.1 hName
    refine ⟨hLess, by simp, fun j hj => ?_⟩
    simpa using List.pairwise_iff_getElem.1 hDistinct j i (Nat.lt_trans hj hLess) hLess hj

theorem given?_textValue {names : List String} (hDistinct : names.Pairwise (· ≠ ·)) (name : String)
    (value : Value) (i : Nat) (found : Value) :
    given? names (textValue name, value) = some (i, found) ↔
      names[i]? = some name ∧ value = found := by
  rw [given?, field?_textValue, Option.join_some, Option.map_eq_some_iff]
  simp only [findIdx?_name_eq_some_iff hDistinct, Prod.mk.injEq]
  constructor
  · rintro ⟨j, hName, rfl, rfl⟩
    exact ⟨hName, rfl⟩
  · rintro ⟨hName, rfl⟩
    exact ⟨i, hName, rfl, rfl⟩

theorem lookup_of_mem {entries : List (Nat × Value)}
    (hDistinct : entries.Pairwise fun a b => a.1 ≠ b.1) {i : Nat} {value : Value}
    (h : (i, value) ∈ entries) : entries.lookup i = some value := by
  obtain ⟨before, after, rfl⟩ := List.append_of_mem h
  rw [List.lookup_eq_some_iff]
  refine ⟨before, after, rfl, fun other hOther => ?_⟩
  have hNe := (List.pairwise_append.1 hDistinct).2.2 other hOther _ List.mem_cons_self
  exact bne_iff_ne.2 (Ne.symm hNe)

/-- Each field of a record is found in its place. -/
theorem record?_of_form {fields : List (String × Value)}
    (hDistinct : (fields.map (·.1)).Pairwise (· ≠ ·)) {value : Value}
    (hForm : RecordForm fields value) :
    ∃ found, record? (fields.map (·.1)) value = some found ∧
      ∀ i field, fields[i]? = some field → found.lookup i = some field.2 := by
  cases hForm with
  | @mk entries extras hExtras hEntries =>
      have hKeys : ∀ entry ∈ entries, field? (fields.map (·.1)) entry.1 ≠ none := by
        intro entry hEntry
        rcases List.mem_append.1 (hEntries.mem_iff.1 hEntry) with hEntry | hEntry
        · obtain ⟨field, -, rfl⟩ := List.mem_map.1 hEntry
          simp
        · simp [(given?_of_unknown (hExtras entry hEntry)).1]
      -- What the entries give is what the fields give: the others give nothing.
      have hGiven : (entries.filterMap (given? (fields.map (·.1)))).Perm
          (fields.filterMap fun field => given? (fields.map (·.1)) (textValue field.1, field.2)) := by
        have hNone : extras.filterMap (given? (fields.map (·.1))) = [] :=
          List.filterMap_eq_nil_iff.2 fun extra hExtra => (given?_of_unknown (hExtras extra hExtra)).2
        have hPerm := hEntries.filterMap (given? (fields.map (·.1)))
        rwa [List.filterMap_append, hNone, List.append_nil, fieldEntries, List.filterMap_map] at hPerm
      have hApart : (entries.filterMap (given? (fields.map (·.1)))).Pairwise
          fun a b => a.1 ≠ b.1 := by
        refine hGiven.symm.pairwise ?_ fun hNe => Ne.symm hNe
        rw [List.pairwise_filterMap]
        refine (List.pairwise_map.1 hDistinct).imp fun {a b} hNe x hx y hy hSame => hNe ?_
        obtain ⟨hA, -⟩ := (given?_textValue hDistinct a.1 a.2 x.1 x.2).1 hx
        obtain ⟨hB, -⟩ := (given?_textValue hDistinct b.1 b.2 y.1 y.2).1 hy
        rw [hSame] at hA
        exact Option.some_inj.1 (hA.symm.trans hB)
      refine ⟨_, collect_eq _ entries hKeys [] (by rwa [List.append_nil]), fun i field hField => ?_⟩
      rw [List.append_nil]
      refine lookup_of_mem (List.pairwise_reverse.2 (hApart.imp Ne.symm)) (List.mem_reverse.2 ?_)
      refine hGiven.mem_iff.2 (List.mem_filterMap.2 ⟨field, List.mem_of_getElem? hField, ?_⟩)
      exact (given?_textValue hDistinct _ _ _ _).2 ⟨by simp [hField], rfl⟩

/-! ### Groups and snapshots -/

/-- The fields of a group, and their values. -/
def groupFieldValues (group : Group) : List (String × Value) :=
  (groupEntries group).map fun field => (field.1, field.2.2)

theorem group?_of_form {group : Group} {value : Value}
    (hForm : RecordForm (groupFieldValues group) value) : group? value = some group := by
  have hDistinct : ((groupFieldValues group).map (·.1)).Pairwise (· ≠ ·) :=
    show groupFields.Pairwise (· ≠ ·) by decide
  obtain ⟨found, hRecord, hFound⟩ := record?_of_form hDistinct hForm
  change record? groupFields value = some found at hRecord
  have hName := hFound 0 _ rfl
  have hJars := hFound 1 _ rfl
  have hConfigFiles := hFound 2 _ rfl
  have hRegions := hFound 3 _ rfl
  have hProperties := hFound 4 _ rfl
  have hLimit := hFound 5 _ rfl
  simp [group?, hRecord, hName, hJars, hConfigFiles, hRegions, hProperties, hLimit]

/-- The fields of a snapshot with these values for its groups, and their values. -/
def snapshotFieldValues (generation : UInt64) (groups : List Value) : List (String × Value) :=
  [("generation", .unsigned generation.toNat), ("groups", .array groups)]

/-- A map with the fields of a snapshot, whose groups are listed in any order, each in one of its
forms. -/
inductive SnapshotForm (snapshot : Snapshot) : Value → Prop where
  | mk {items : List (Group × Value)} {value : Value}
      (hGroups : (items.map (·.1)).Perm snapshot.groups.values)
      (hItems : ∀ item ∈ items, RecordForm (groupFieldValues item.1) item.2)
      (hValue : RecordForm (snapshotFieldValues snapshot.generation (items.map (·.2))) value) :
      SnapshotForm snapshot value

theorem snapshot?_of_form {snapshot : Snapshot} {value : Value}
    (hForm : SnapshotForm snapshot value) :
    ∃ groups, snapshot? value = some (snapshot.generation, groups) ∧
      groups.Perm snapshot.groups.values := by
  cases hForm with
  | @mk items value hGroups hItems hValue =>
      have hDistinct : ((snapshotFieldValues snapshot.generation (items.map (·.2))).map
          (·.1)).Pairwise (· ≠ ·) := show snapshotFields.Pairwise (· ≠ ·) by decide
      obtain ⟨found, hRecord, hFound⟩ := record?_of_form hDistinct hValue
      change record? snapshotFields value = some found at hRecord
      have hGeneration := hFound 0 _ rfl
      have hList := hFound 1 _ rfl
      have hRead := mapM_map items fun item hItem => group?_of_form (hItems item hItem)
      refine ⟨items.map (·.1), ?_, hGroups⟩
      simp [snapshot?, hRecord, hGeneration, hList, word?, items?, hRead]

/-- A record in the order of its fields, with nothing else in it, is one of its forms. -/
theorem recordForm_recordValue (fields : List (String × (Bytes × Value))) :
    RecordForm (fields.map fun field => (field.1, field.2.2)) (recordValue fields) := by
  refine .mk (fun extra hExtra => absurd hExtra List.not_mem_nil) (.of_eq ?_)
  simp [fieldEntries, Function.comp_def]

/-- What is written for a snapshot is one of its forms. -/
theorem snapshotForm_snapshotValue (snapshot : Snapshot) :
    SnapshotForm snapshot (snapshotValue snapshot.generation snapshot.groups.values) := by
  refine @SnapshotForm.mk _ (snapshot.groups.values.map fun group => (group, groupValue group)) _
    (.of_eq (by simp [Function.comp_def])) ?_ ?_
  · intro item hItem
    obtain ⟨group, -, rfl⟩ := List.mem_map.1 hItem
    exact recordForm_recordValue (groupEntries group)
  · have hForm := recordForm_recordValue (snapshotEntries snapshot.generation snapshot.groups.values)
    simpa [snapshotFieldValues, snapshotEntries, snapshotValue, groupsValue,
      Function.comp_def] using hForm

end Body

namespace Snapshot

/-- Every form of a snapshot is read as the snapshot, whatever follows it: its fields and those of
its groups in any order, the groups in any order, and any other entries among them. What is written
for a snapshot is one of these forms. -/
theorem ofBody_of_forms {snapshot : Snapshot} (hSnapshot : snapshot.Obtainable) :
    (∀ value body rest, Body.SnapshotForm snapshot value → Stands maxNesting body value →
      ofBody (body ++ rest) = .ok snapshot) ∧
    (Body.GroupsFit snapshot.groups.values →
      ∃ value, Body.SnapshotForm snapshot value ∧ Stands maxNesting snapshot.toBody value) := by
  have hKeyed := hSnapshot.keyed
  constructor
  · intro value body rest hForm hStands
    obtain ⟨groups, hGroups, hPerm⟩ := Body.snapshot?_of_form hForm
    have hRead : MessagePack.read (body ++ rest) = some (value, rest) :=
      readValue_eq_some_iff.2 ⟨body, rfl, hStands⟩
    -- The groups have different names, and the map that they make up does not depend on their order.
    have hDistinct : groups.Pairwise fun a b => a.name ≠ b.name :=
      hPerm.symm.pairwise hKeyed.distinct_names fun hNe => Ne.symm hNe
    have hMap : GroupMap.ofGroups groups = snapshot.groups := by
      refine NameMap.ofList_of_perm ?_
      rw [← hKeyed.map_values]
      exact hPerm.map _
    rw [Body.ofBody_of_read hRead hGroups,
      (Body.firstRepeated?_groups_eq_none_iff groups).2 hDistinct, ofGroups, hMap]
  · intro hFit
    exact ⟨_, Body.snapshotForm_snapshotValue snapshot,
      Body.stands_write snapshot.generation hFit.count hFit.each⟩

/-- The groups are listed as b and a, the fields of a stand in the opposite order behind an
extension, and the map around them starts with an entry whose key is no text. -/
theorem ofBody_of_reversed :
    let a : Group := { name := "a", logFileSizeLimit := some 5 }
    let b : Group := { name := "b" }
    let snapshot : Snapshot := ⟨7, NameMap.insert (NameMap.insert ∅ "a" a) "b" b⟩
    snapshot.Obtainable ∧
    ofBody (writeMapHead 3 ++ writeStr [0xff] ++ [0xca, 0x00, 0x00, 0x00, 0x00] ++
      Body.writeText "groups" ++ writeArrayHead 2 ++ Body.writeGroup b ++
        writeMapHead 7 ++ Body.writeText "x" ++ [0xd4, 0x01, 0x02] ++
          Body.writeText "log_file_size_limit" ++ Body.writeLimit (some 5) ++
          Body.writeText "properties" ++ Body.writeProperties ∅ ++
          Body.writeText "regions" ++ Body.writeNames ∅ ++
          Body.writeText "config_files" ++ Body.writeNames ∅ ++
          Body.writeText "jars" ++ Body.writeNames ∅ ++ Body.writeText "name" ++ Body.writeText "a" ++
      Body.writeText "generation" ++ [0x07]) = .ok snapshot := by
  intro a b snapshot
  have hFirst : GroupMap.Keyed (NameMap.insert ∅ "a" a) := GroupMap.keyed_empty.insert rfl
  have hKeyed : GroupMap.Keyed snapshot.groups := hFirst.insert rfl
  have hObtainable : snapshot.Obtainable := obtainable_of_keyed hKeyed
  -- The record of a, the list of the groups and the map around it, each as bytes and values.
  let unknown : String × (Bytes × Value) := ("x", ([0xd4, 0x01, 0x02], .ext 1 [2]))
  let fields := (Body.groupEntries a ++ [unknown]).reverse
  let items : List (Bytes × Value) := [(Body.writeGroup b, Body.groupValue b),
    (writeMapHead fields.length ++ fields.flatMap fun field => Body.writeText field.1 ++ field.2.1,
      Body.recordValue fields)]
  let entries : List ((Bytes × Value) × (Bytes × Value)) :=
    [((writeStr [0xff], .str [0xff]), ([0xca, 0x00, 0x00, 0x00, 0x00], .float [0, 0, 0, 0])),
      ((Body.writeText "groups", Body.textValue "groups"),
        (writeArrayHead items.length ++ items.flatMap (·.1), .array (items.map (·.2)))),
      ((Body.writeText "generation", Body.textValue "generation"), ([0x07], .unsigned 7))]
  have hA : Body.RecordForm (Body.groupFieldValues a) (Body.recordValue fields) := by
    refine @Body.RecordForm.mk _ _ [(Body.textValue "x", .ext 1 [2])] (fun extra hExtra => ?_)
      ((List.reverse_perm (Body.groupEntries a ++ [unknown])).map _)
    rw [List.mem_singleton.1 hExtra]
    exact ⟨_, rfl, by decide⟩
  have hB : Body.RecordForm (Body.groupFieldValues b) (Body.groupValue b) :=
    Body.recordForm_recordValue (Body.groupEntries b)
  have hForm : Body.SnapshotForm snapshot
      (.map (entries.map fun entry => (entry.1.2, entry.2.2))) := by
    refine @Body.SnapshotForm.mk _ [(b, Body.groupValue b), (a, Body.recordValue fields)] _
      (.swap a b []) ?_ ?_
    · exact List.forall_mem_cons.2 ⟨hB, List.forall_mem_singleton.2 hA⟩
    · let known := Body.snapshotFieldValues 7 [Body.groupValue b, Body.recordValue fields]
      let extra : Value × Value := (.str [0xff], .float [0, 0, 0, 0])
      refine @Body.RecordForm.mk _ _ [extra] (fun extra hExtra => ?_)
        (List.reverse_perm (Body.fieldEntries known ++ [extra]))
      rw [List.mem_singleton.1 hExtra]
      exact ⟨_, rfl, by decide⟩
  have hFields : ∀ field ∈ fields, Body.TextFits field.1 ∧ Stands 1020 field.2.1 field.2.2 := by
    intro field hField
    rcases List.mem_append.1 (List.mem_reverse.1 hField) with hField | hField
    · exact Body.stands_groupEntries 1019 (by decide) field hField
    · rw [List.mem_singleton.1 hField]
      exact ⟨by decide, .ext 1 (.short rfl)⟩
  have hItems : ∀ item ∈ items, Stands 1021 item.1 item.2 :=
    List.forall_mem_cons.2 ⟨Body.stands_writeGroup 1019 (by decide),
      List.forall_mem_singleton.2 (Body.stands_record 1020 fields (by decide) hFields)⟩
  have hEntries : ∀ entry ∈ entries,
      Stands 1022 entry.1.1 entry.1.2 ∧ Stands 1022 entry.2.1 entry.2.2 := by
    simp only [entries, List.forall_mem_cons]
    exact ⟨⟨stands_writeStr 1022 (by decide), .float (by decide)⟩,
      ⟨Body.stands_writeText 1022 (by decide), stands_array 1021 items (by decide) hItems⟩,
      ⟨Body.stands_writeText 1022 (by decide), .small (by decide)⟩, by simp⟩
  have hStands := stands_map 1022 entries (by decide) hEntries
  have hRead := (ofBody_of_forms hObtainable).1 _ _ [] hForm hStands
  refine ⟨hObtainable, ?_⟩
  simpa [entries, items, fields, unknown, a, Body.groupEntries] using hRead

end Snapshot

end ConfigExchange
