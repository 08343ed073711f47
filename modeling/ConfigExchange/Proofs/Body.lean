import ConfigExchange.Configuration.Body
import ConfigExchange.Proofs.Groups
import ConfigExchange.Proofs.MessagePack

/-! The body of a snapshot is read back. Written groups stand for MessagePack values, the reader of
the format finds these values again, and the groups are made of them. -/
namespace ConfigExchange

open MessagePack

namespace Body

/-! ### What fits a body

A head has room for 32 bits of length, so a string or a collection has to be shorter than that. -/

/-- A text whose length fits its head. -/
def TextFits (text : String) : Prop := (Text.utf8 text).length < 0x100000000

instance (text : String) : Decidable (TextFits text) :=
  inferInstanceAs (Decidable ((Text.utf8 text).length < 0x100000000))

/-- A set of names that fits, with each of its names. -/
def NamesFit (names : NameSet) : Prop :=
  names.size < 0x100000000 ∧ ∀ name ∈ names.names, TextFits name

/-- Properties that fit, with each key and value. -/
def PropertiesFit (properties : NameMap String) : Prop :=
  properties.size < 0x100000000 ∧ ∀ entry ∈ properties.entries, TextFits entry.1 ∧ TextFits entry.2

instance (names : NameSet) : Decidable (NamesFit names) :=
  inferInstanceAs (Decidable (_ ∧ _))

instance (properties : NameMap String) : Decidable (PropertiesFit properties) :=
  inferInstanceAs (Decidable (_ ∧ _))

/-- A group all of whose parts fit. -/
structure GroupFits (group : Group) : Prop where
  name : TextFits group.name
  jars : NamesFit group.jars
  configFiles : NamesFit group.configFiles
  regions : NamesFit group.regions
  properties : PropertiesFit group.properties

instance (group : Group) : Decidable (GroupFits group) :=
  decidable_of_iff
    (TextFits group.name ∧ NamesFit group.jars ∧ NamesFit group.configFiles ∧
      NamesFit group.regions ∧ PropertiesFit group.properties)
    ⟨fun h => ⟨h.1, h.2.1, h.2.2.1, h.2.2.2.1, h.2.2.2.2⟩,
      fun h => ⟨h.name, h.jars, h.configFiles, h.regions, h.properties⟩⟩

/-! ### What is short enough fits

Everything that is written takes at least one byte, and no less than what it holds. A body below
2^32 bytes therefore has nothing in it that a head has no room for. -/

theorem length_le_writeText (text : String) :
    (Text.utf8 text).length < (writeText text).length := by
  rw [writeText, writeStr, List.length_append]
  have hHead : ∀ {n width : Nat} {marker : UInt8}, 0 < (marked marker width n).length := by
    simp [marked]
  split
  · simp
  split
  · exact Nat.lt_add_of_pos_left hHead
  split
  · exact Nat.lt_add_of_pos_left hHead
  · exact Nat.lt_add_of_pos_left hHead

/-- A piece of what was written is no longer than the whole. -/
theorem length_le_flatMap {α : Type} (write : α → Bytes) {items : List α} {item : α}
    (h : item ∈ items) : (write item).length ≤ (items.flatMap write).length := by
  obtain ⟨before, after, rfl⟩ := List.append_of_mem h
  simp only [List.flatMap_append, List.flatMap_cons, List.length_append]
  omega

/-- As many items as there are, as many bytes are written at least. -/
theorem count_le_flatMap {α : Type} {write : α → Bytes} (hWrite : ∀ item, 0 < (write item).length)
    (items : List α) : items.length ≤ (items.flatMap write).length := by
  induction items with
  | nil => simp
  | cons first rest ih =>
      have hFirst := hWrite first
      simp only [List.flatMap_cons, List.length_append, List.length_cons]
      omega

theorem textFits_of_length {text : String} (h : (writeText text).length < 0x100000000) :
    TextFits text :=
  Nat.lt_trans (length_le_writeText text) h

theorem namesFit_of_length {names : NameSet} (h : (writeNames names).length < 0x100000000) :
    NamesFit names := by
  rw [writeNames, List.length_append] at h
  constructor
  · have hCount := count_le_flatMap
      (fun name => Nat.zero_lt_of_lt (length_le_writeText name)) names.names
    rw [NameMap.names, List.length_map] at hCount
    rw [NameMap.size]
    rw [NameMap.names] at h
    omega
  · intro name hName
    have hLength := length_le_flatMap writeText hName
    exact textFits_of_length (by omega)

theorem propertiesFit_of_length {properties : NameMap String}
    (h : (writeProperties properties).length < 0x100000000) : PropertiesFit properties := by
  rw [writeProperties, List.length_append] at h
  constructor
  · have hCount := count_le_flatMap
      (fun entry : String × String => show 0 < (writeText entry.1 ++ writeText entry.2).length by
        have hKey := length_le_writeText entry.1
        rw [List.length_append]
        omega) properties.entries
    rw [NameMap.size]
    omega
  · intro entry hEntry
    have hLength := length_le_flatMap
      (fun entry : String × String => writeText entry.1 ++ writeText entry.2) hEntry
    rw [List.length_append] at hLength
    exact ⟨textFits_of_length (by omega), textFits_of_length (by omega)⟩

theorem groupFits_of_length {group : Group} (h : (writeGroup group).length < 0x100000000) :
    GroupFits group := by
  simp only [writeGroup, List.length_append] at h
  exact ⟨textFits_of_length (by omega), namesFit_of_length (by omega), namesFit_of_length (by omega),
    namesFit_of_length (by omega), propertiesFit_of_length (by omega)⟩

/-- The groups of a body that is short enough fit, and so does their number. -/
theorem groupsFit_of_length {generation : UInt64} {groups : List Group}
    (h : (write generation groups).length < 0x100000000) :
    groups.length < 0x100000000 ∧ ∀ group ∈ groups, GroupFits group := by
  simp only [write, List.length_append] at h
  constructor
  · have hCount := count_le_flatMap
      (fun group => show 0 < (writeGroup group).length by
        have hName := length_le_writeText group.name
        simp only [writeGroup, List.length_append]
        omega) groups
    omega
  · intro group hGroup
    have hLength := length_le_flatMap writeGroup hGroup
    exact groupFits_of_length (by omega)

/-! ### Values -/

def textValue (text : String) : Value := .str (Text.utf8 text)

def namesValue (names : NameSet) : Value := .array (names.names.map textValue)

def propertiesValue (properties : NameMap String) : Value :=
  .map (properties.entries.map fun entry => (textValue entry.1, textValue entry.2))

def limitValue : Option UInt64 → Value
  | none => .nil
  | some limit => .unsigned limit.toNat

/-- The fields of a group: their names, how they are written, and the values they stand for. -/
def groupEntries (group : Group) : List (String × (Bytes × Value)) :=
  [("name", (writeText group.name, textValue group.name)),
    ("jars", (writeNames group.jars, namesValue group.jars)),
    ("config_files", (writeNames group.configFiles, namesValue group.configFiles)),
    ("regions", (writeNames group.regions, namesValue group.regions)),
    ("properties", (writeProperties group.properties, propertiesValue group.properties)),
    ("log_file_size_limit", (writeLimit group.logFileSizeLimit, limitValue group.logFileSizeLimit))]

/-- The value of a record with these fields. -/
def recordValue (fields : List (String × (Bytes × Value))) : Value :=
  .map (fields.map fun field => (textValue field.1, field.2.2))

def groupValue (group : Group) : Value := recordValue (groupEntries group)

def groupsValue (groups : List Group) : Value := .array (groups.map groupValue)

/-- The fields of a snapshot. -/
def snapshotEntries (generation : UInt64) (groups : List Group) : List (String × (Bytes × Value)) :=
  [("generation", (writeUInt generation.toNat, .unsigned generation.toNat)),
    ("groups", (writeArrayHead groups.length ++ groups.flatMap writeGroup, groupsValue groups))]

def snapshotValue (generation : UInt64) (groups : List Group) : Value :=
  recordValue (snapshotEntries generation groups)

/-! ### Written bytes stand for these values -/

theorem stands_writeText (nesting : Nat) {text : String} (h : TextFits text) :
    Stands nesting (writeText text) (textValue text) :=
  stands_writeStr nesting h

theorem stands_writeLimit (nesting : Nat) (limit : Option UInt64) :
    Stands nesting (writeLimit limit) (limitValue limit) := by
  cases limit with
  | none => exact .nil
  | some limit => exact stands_writeUInt nesting limit.toNat_lt

theorem stands_writeNames (nesting : Nat) {names : NameSet} (h : NamesFit names) :
    Stands (nesting + 1) (writeNames names) (namesValue names) := by
  have hArray := stands_array nesting
    (names.names.map fun name => (writeText name, textValue name))
    (by simpa [NameMap.names, NameMap.size] using h.1)
    (by simpa using fun name hName => stands_writeText nesting (h.2 name hName))
  simpa [writeNames, namesValue, NameMap.size, NameMap.names, List.flatMap_map,
    Function.comp_def] using hArray

theorem stands_writeProperties (nesting : Nat) {properties : NameMap String}
    (h : PropertiesFit properties) :
    Stands (nesting + 1) (writeProperties properties) (propertiesValue properties) := by
  have hMap := stands_map nesting
    (properties.entries.map fun entry =>
      ((writeText entry.1, textValue entry.1), (writeText entry.2, textValue entry.2)))
    (by simpa [NameMap.size] using h.1)
    (by
      intro entry hEntry
      obtain ⟨pair, hPair, rfl⟩ := List.mem_map.1 hEntry
      exact ⟨stands_writeText nesting (h.2 pair hPair).1,
        stands_writeText nesting (h.2 pair hPair).2⟩)
  simpa [writeProperties, propertiesValue, NameMap.size, List.flatMap_map,
    Function.comp_def] using hMap

/-- A record is written as the entries that its fields are written as. -/
theorem stands_record (nesting : Nat) (fields : List (String × (Bytes × Value)))
    (hLength : fields.length < 0x100000000)
    (h : ∀ field ∈ fields, TextFits field.1 ∧ Stands nesting field.2.1 field.2.2) :
    Stands (nesting + 1)
      (writeMapHead fields.length ++ fields.flatMap fun field => writeText field.1 ++ field.2.1)
      (recordValue fields) := by
  have hMap := stands_map nesting
    (fields.map fun field => ((writeText field.1, textValue field.1), field.2))
    (by simpa using hLength)
    (by
      intro entry hEntry
      obtain ⟨field, hField, rfl⟩ := List.mem_map.1 hEntry
      exact ⟨stands_writeText nesting (h field hField).1, (h field hField).2⟩)
  simpa [recordValue, List.flatMap_map, Function.comp_def] using hMap

theorem stands_groupEntries (nesting : Nat) {group : Group} (h : GroupFits group) :
    ∀ field ∈ groupEntries group, TextFits field.1 ∧ Stands (nesting + 1) field.2.1 field.2.2 := by
  simp only [groupEntries, List.forall_mem_cons]
  exact ⟨⟨by decide, stands_writeText _ h.name⟩, ⟨by decide, stands_writeNames _ h.jars⟩,
    ⟨by decide, stands_writeNames _ h.configFiles⟩, ⟨by decide, stands_writeNames _ h.regions⟩,
    ⟨by decide, stands_writeProperties _ h.properties⟩, ⟨by decide, stands_writeLimit _ _⟩, by simp⟩

theorem stands_writeGroup (nesting : Nat) {group : Group} (h : GroupFits group) :
    Stands (nesting + 2) (writeGroup group) (groupValue group) := by
  have hRecord := stands_record (nesting + 1) (groupEntries group) (by simp [groupEntries])
    (stands_groupEntries nesting h)
  simpa [groupEntries, writeGroup, groupValue] using hRecord

theorem stands_writeGroups (nesting : Nat) {groups : List Group}
    (hLength : groups.length < 0x100000000)
    (h : ∀ group ∈ groups, GroupFits group) :
    Stands (nesting + 3) (writeArrayHead groups.length ++ groups.flatMap writeGroup)
      (groupsValue groups) := by
  have hArray := stands_array (nesting + 2)
    (groups.map fun group => (writeGroup group, groupValue group)) (by simpa using hLength)
    (by simpa using fun group hGroup => stands_writeGroup nesting (h group hGroup))
  simpa [groupsValue, List.flatMap_map, Function.comp_def] using hArray

/-- A written body stands for a value of the permitted depth. -/
theorem stands_write (generation : UInt64) {groups : List Group}
    (hLength : groups.length < 0x100000000) (h : ∀ group ∈ groups, GroupFits group) :
    Stands maxNesting (write generation groups) (snapshotValue generation groups) := by
  have hFields : ∀ field ∈ snapshotEntries generation groups,
      TextFits field.1 ∧ Stands (maxNesting - 1) field.2.1 field.2.2 := by
    simp only [snapshotEntries, List.forall_mem_cons]
    exact ⟨⟨by decide, stands_writeUInt _ generation.toNat_lt⟩,
      ⟨by decide, stands_writeGroups (maxNesting - 4) hLength h⟩, by simp⟩
  have hRecord := stands_record (maxNesting - 1) (snapshotEntries generation groups)
    (by simp [snapshotEntries]) hFields
  have hWritten : write generation groups = writeMapHead (snapshotEntries generation groups).length ++
      (snapshotEntries generation groups).flatMap fun field => writeText field.1 ++ field.2.1 := by
    simp [write, snapshotEntries]
  rw [hWritten]
  exact hRecord

/-! ### Groups are made of these values -/

theorem utf8_inj {a b : String} : Text.utf8 a = Text.utf8 b ↔ a = b :=
  ⟨Text.utf8_injective, congrArg Text.utf8⟩

@[simp] theorem text?_textValue (text : String) : text? (textValue text) = some text :=
  Text.ofUtf8?_utf8 text

@[simp] theorem field?_textValue (fields : List String) (text : String) :
    field? fields (textValue text) = some (fields.findIdx? fun field => field = text) := by
  simp [field?, textValue, utf8_inj]

@[simp] theorem limit?_limitValue (limit : Option UInt64) :
    limit? (limitValue limit) = some limit := by
  cases limit <;> simp [limit?, limitValue, word?]

/-- Reading each of some values for what it was made of gives the whole list back. -/
theorem mapM_map {α β γ : Type} {make : β → α} {read : α → Option γ} {found : β → γ}
    (items : List β)
    (h : ∀ item ∈ items, read (make item) = some (found item)) :
    (items.map make).mapM read = some (items.map found) := by
  induction items with
  | nil => rfl
  | cons first rest ih =>
      rw [List.map_cons, List.mapM_cons, h first List.mem_cons_self,
        ih fun item hItem => h item (List.mem_cons_of_mem _ hItem)]
      rfl

theorem mapM_map_self {α β : Type} {make : β → α} {read : α → Option β} (items : List β)
    (h : ∀ item ∈ items, read (make item) = some item) :
    (items.map make).mapM read = some items := by
  have hMap := mapM_map items h
  rwa [List.map_id'] at hMap

@[simp] theorem names?_namesValue (names : NameSet) : names? (namesValue names) = some names := by
  have hTexts := mapM_map_self names.names fun name _ => text?_textValue name
  have hSet : NameSet.ofList names.names = names := by
    refine NameMap.ofList_of_perm (.of_eq ?_)
    simp [NameMap.names, Function.comp_def]
  simp [names?, namesValue, items?, hTexts, hSet]

@[simp] theorem properties?_propertiesValue (properties : NameMap String) :
    properties? (propertiesValue properties) = some properties := by
  have hEntries : (properties.entries.map fun entry => (textValue entry.1, textValue entry.2)).mapM
      (fun entry => do return (← text? entry.1, ← text? entry.2)) = some properties.entries :=
    mapM_map_self properties.entries fun entry _ => by simp
  have hMap : NameMap.ofList properties.entries = properties := NameMap.ofList_of_perm (.refl _)
  simp only [properties?, propertiesValue, hEntries]
  simp [hMap]

@[simp] theorem group?_groupValue (group : Group) : group? (groupValue group) = some group := by
  simp [group?, groupValue, recordValue, groupEntries, record?, collect, groupFields,
    List.findIdx?_cons, List.lookup_cons, Option.bind_eq_bind]

theorem snapshot?_snapshotValue (generation : UInt64) (groups : List Group) :
    snapshot? (snapshotValue generation groups) = some (generation, groups) := by
  have hGroups := mapM_map_self groups fun group _ => group?_groupValue group
  simp [snapshot?, snapshotValue, recordValue, snapshotEntries, record?, collect, snapshotFields,
    List.findIdx?_cons, List.lookup_cons, word?, items?, groupsValue, hGroups]

/-! ### Bodies are read back -/

/-- A body whose value is made up of groups is read, up to a name that occurs twice. -/
theorem ofBody_of_read {body rest : Bytes} {value : Value} {generation : UInt64}
    {groups : List Group}
    (hRead : MessagePack.read body = some (value, rest))
    (hValue : snapshot? value = some (generation, groups)) :
    Snapshot.ofBody body =
      match firstRepeated? [] (groups.map (·.name)) with
      | some name => .error (.duplicateGroup name)
      | none => .ok (.ofGroups generation groups) := by
  have hFound : (MessagePack.read body).bind (fun read => snapshot? read.1) =
      some (generation, groups) := by
    rw [hRead]
    exact hValue
  unfold Snapshot.ofBody
  split
  · next hNone => cases hFound.symm.trans hNone
  · next hSome =>
    cases hFound.symm.trans hSome
    rfl

/-- A body that was written is read back, whatever follows it, up to a name that occurs twice. -/
theorem ofBody_write (generation : UInt64) {groups : List Group}
    (hLength : groups.length < 0x100000000) (h : ∀ group ∈ groups, GroupFits group) (rest : Bytes) :
    Snapshot.ofBody (write generation groups ++ rest) =
      match firstRepeated? [] (groups.map (·.name)) with
      | some name => .error (.duplicateGroup name)
      | none => .ok (.ofGroups generation groups) :=
  ofBody_of_read ((stands_write generation hLength h).reads rest)
    (snapshot?_snapshotValue generation groups)

theorem firstRepeated?_eq_none {names : List String} (hDistinct : names.Pairwise (· ≠ ·))
    (seen : List String) (hSeen : ∀ name ∈ names, name ∉ seen) :
    firstRepeated? seen names = none := by
  induction names generalizing seen with
  | nil => rfl
  | cons first rest ih =>
      obtain ⟨hFirst, hRest⟩ := List.pairwise_cons.1 hDistinct
      rw [firstRepeated?, if_neg (hSeen first List.mem_cons_self)]
      apply ih hRest
      intro name hName hMem
      rcases List.mem_cons.1 hMem with hEq | hMem
      · exact hFirst name hName hEq.symm
      · exact hSeen name (List.mem_cons_of_mem _ hName) hMem

end Body

namespace Snapshot

/-- The snapshots that come about: made of groups, cut down to some names, or read from a body. -/
inductive Obtainable : Snapshot → Prop where
  | ofGroups (generation : UInt64) (groups : List Group) : Obtainable (.ofGroups generation groups)
  | restrict {snapshot : Snapshot} (hSnapshot : Obtainable snapshot) (requested : NameSet) :
      Obtainable (snapshot.restrict requested)
  | ofBody {body : Bytes} {snapshot : Snapshot} (hRead : ofBody body = .ok snapshot) :
      Obtainable snapshot

theorem Obtainable.keyed {snapshot : Snapshot} (h : Obtainable snapshot) :
    GroupMap.Keyed snapshot.groups := by
  cases h with
  | ofGroups generation groups => exact GroupMap.keyed_ofGroups groups
  | restrict hSnapshot requested => exact GroupMap.keyed_ofGroups _
  | ofBody hRead =>
      unfold Snapshot.ofBody at hRead
      split at hRead
      · cases hRead
      · split at hRead
        · cases hRead
        · cases hRead
          exact GroupMap.keyed_ofGroups _

/-- Any snapshot that lists its groups under their own names comes about. -/
theorem obtainable_of_keyed {snapshot : Snapshot} (hKeyed : GroupMap.Keyed snapshot.groups) :
    Obtainable snapshot := by
  have hMade : ofGroups snapshot.generation snapshot.groups.values = snapshot := by
    rw [ofGroups, hKeyed.ofGroups_values]
  rw [← hMade]
  exact .ofGroups snapshot.generation snapshot.groups.values

/-- The body of a snapshot is read as the snapshot, if its groups fit. -/
theorem ofBody_toBody_of_fit {snapshot : Snapshot} (hSnapshot : Obtainable snapshot)
    (hCount : snapshot.groups.values.length < 0x100000000)
    (hFit : ∀ group ∈ snapshot.groups.values, Body.GroupFits group) :
    ofBody snapshot.toBody = .ok snapshot := by
  have hKeyed := hSnapshot.keyed
  have hNames : Body.firstRepeated? [] (snapshot.groups.values.map (·.name)) = none :=
    Body.firstRepeated?_eq_none (List.pairwise_map.2 hKeyed.distinct_names) [] fun _ _ =>
      List.not_mem_nil
  have hRead := Body.ofBody_write snapshot.generation hCount hFit []
  rw [List.append_nil, hNames] at hRead
  rw [toBody, hRead, ofGroups, hKeyed.ofGroups_values]

/-- The body of a snapshot is read as the snapshot, if it is short enough for its heads. -/
theorem ofBody_toBody {snapshot : Snapshot} (hSnapshot : Obtainable snapshot)
    (hLength : snapshot.toBody.length < 0x100000000) : ofBody snapshot.toBody = .ok snapshot := by
  obtain ⟨hCount, hFit⟩ := Body.groupsFit_of_length hLength
  exact ofBody_toBody_of_fit hSnapshot hCount hFit

end Snapshot

end ConfigExchange
