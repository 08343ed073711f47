import ConfigExchange.Proofs.Store
import Mathlib.Data.List.Infix
import Mathlib.Logic.Function.Basic

/-! What a store holds after any operations, told from the groups at the start and the operations
alone: the content is that of a plain map to which the edits were made one after the other, and the
generation counts those that were completed. -/
namespace ConfigExchange

namespace NameSet

/-- A set is told by what it contains. -/
theorem contains_injective : Function.Injective (NameMap.contains : NameSet → String → Bool) := by
  intro first second hSame
  refine ext_names fun name => ?_
  rw [← NameMap.contains_iff, ← NameMap.contains_iff, hSame]

end NameSet

namespace Group

/-! ### A plain group -/

/-- What there is to know of a group: what is in its sets, the values of its properties, and the
limit. -/
structure Facts where
  name : String
  jars : String → Bool
  configFiles : String → Bool
  regions : String → Bool
  properties : String → Option String
  logFileSizeLimit : Option UInt64

def facts (group : Group) : Facts where
  name := group.name
  jars := group.jars.contains
  configFiles := group.configFiles.contains
  regions := group.regions.contains
  properties := group.properties.get?
  logFileSizeLimit := group.logFileSizeLimit

/-- There is nothing else to know of a group. -/
theorem facts_injective : Function.Injective facts := by
  intro first second hSame
  obtain ⟨hName, hJars, hFiles, hRegions, hProperties, hLimit⟩ := Facts.mk.inj hSame
  have hMaps : first.properties = second.properties :=
    NameMap.ext_get? fun key => congrFun hProperties key
  obtain ⟨name, jars, configFiles, regions, properties, limit⟩ := first
  cases NameSet.contains_injective hJars
  cases NameSet.contains_injective hFiles
  cases NameSet.contains_injective hRegions
  cases hName
  cases hMaps
  cases hLimit
  rfl

namespace Facts

/-- A group of that name with nothing in it. -/
def blank (name : String) : Facts where
  name := name
  jars := fun _ => false
  configFiles := fun _ => false
  regions := fun _ => false
  properties := fun _ => none
  logFileSizeLimit := none

/-- What an edit makes of a group. One that breaks off makes nothing of it. -/
def edit (facts : Facts) : Edit → Facts
  | .addJar value => { facts with jars := Function.update facts.jars value true }
  | .removeJar value => { facts with jars := Function.update facts.jars value false }
  | .addConfigFile value =>
    { facts with configFiles := Function.update facts.configFiles value true }
  | .removeConfigFile value =>
    { facts with configFiles := Function.update facts.configFiles value false }
  | .addRegion value => { facts with regions := Function.update facts.regions value true }
  | .removeRegion value => { facts with regions := Function.update facts.regions value false }
  | .setProperty key value =>
    { facts with properties := Function.update facts.properties key (some value) }
  | .setLogFileSizeLimit limit => { facts with logFileSizeLimit := limit }
  | .fail => facts

/-- What an edit of a group answers: whether something was added or taken out, or the value that a
property had. -/
def answer (facts : Facts) : Edit → EditAnswer
  | .addJar value => .changed (!facts.jars value)
  | .removeJar value => .changed (facts.jars value)
  | .addConfigFile value => .changed (!facts.configFiles value)
  | .removeConfigFile value => .changed (facts.configFiles value)
  | .addRegion value => .changed (!facts.regions value)
  | .removeRegion value => .changed (facts.regions value)
  | .setProperty key _ => .previous (facts.properties key)
  | .setLogFileSizeLimit _ | .fail => .nothing

/-- What edits answer, one after the other. -/
def answers : Facts → List Edit → List EditAnswer
  | _, [] => []
  | facts, first :: rest => facts.answer first :: (facts.edit first).answers rest

end Facts

/-! ### Edits of a group -/

def Edit.breaksOff : Edit → Bool
  | fail => true
  | _ => false

/-- The edits that are made: those before the first one that breaks off. -/
def made (edits : List Edit) : List Edit := edits.takeWhile fun edit => !edit.breaksOff

theorem edit_eq_none {group : Group} {edit : Edit} :
    group.edit edit = none ↔ edit.breaksOff = true := by
  cases edit with
  | fail => exact ⟨fun _ => rfl, fun _ => rfl⟩
  | _ => exact ⟨nofun, nofun⟩

/-- An edit does to a group what it does to a plain one. -/
theorem facts_of_edit {group next : Group} {edit : Edit} {answer : EditAnswer}
    (hEdit : group.edit edit = some (answer, next)) :
    answer = group.facts.answer edit ∧ next.facts = group.facts.edit edit := by
  have hParts : ∀ {result : EditAnswer × Group}, some result = some (answer, next) →
      answer = result.1 ∧ next = result.2 := by
    rintro _ ⟨⟩
    exact ⟨rfl, rfl⟩
  cases edit with
  | addJar | addConfigFile | addRegion =>
      obtain ⟨rfl, rfl⟩ := hParts hEdit
      simp only [facts, NameMap.contains_insert]
      exact ⟨rfl, rfl⟩
  | removeJar | removeConfigFile | removeRegion =>
      obtain ⟨rfl, rfl⟩ := hParts hEdit
      simp only [facts, NameMap.contains_erase]
      exact ⟨rfl, rfl⟩
  | setProperty key value =>
      obtain ⟨rfl, rfl⟩ := hParts hEdit
      simp only [facts, NameMap.get?_insert_eq]
      exact ⟨rfl, rfl⟩
  | setLogFileSizeLimit =>
      obtain ⟨rfl, rfl⟩ := hParts hEdit
      exact ⟨rfl, rfl⟩
  | fail => cases hEdit

/-- Edits of a group do what those that are made do to a plain one, whether or not one breaks off
then. -/
theorem facts_editAll (group : Group) (edits : List Edit) :
    (group.editAll edits).1 = group.facts.answers (made edits) ∧
      (group.editAll edits).2.1.facts = (made edits).foldl Facts.edit group.facts ∧
      (group.editAll edits).2.2 = edits.any Edit.breaksOff := by
  induction edits generalizing group with
  | nil => exact ⟨rfl, rfl, rfl⟩
  | cons first rest ih =>
      unfold editAll
      cases hFirst : group.edit first with
      | none => simp [made, edit_eq_none.1 hFirst, Facts.answers]
      | some result =>
          obtain ⟨answer, next⟩ := result
          have hSound : first.breaksOff = false := by
            rw [Bool.eq_false_iff]
            intro hBroken
            cases hFirst.symm.trans (edit_eq_none.2 hBroken)
          obtain ⟨hAnswer, hNext⟩ := facts_of_edit hFirst
          obtain ⟨hAnswers, hFacts, hBroken⟩ := ih next
          have hMade : made (first :: rest) = first :: made rest := by simp [made, hSound]
          rw [hMade, List.any_cons, hSound, Bool.false_or, Facts.answers, List.foldl_cons,
            ← hAnswer, ← hNext]
          exact ⟨congrArg (answer :: ·) hAnswers, hFacts, hBroken⟩

end Group

namespace Store

/-! ### A plain map -/

/-- What there is to know of the groups, by their names. -/
abbrev Content := String → Option Group.Facts

namespace Content

/-- What there is to know of the groups that are found. -/
def of (find : String → Option Group) : Content := fun name => (find name).map Group.facts

theorem of_injective : Function.Injective of := by
  intro first second hSame
  funext name
  exact Option.map_injective Group.facts_injective (congrFun hSame name)

theorem of_update (find : String → Option Group) (name : String) (group : Option Group) :
    of (Function.update find name group) =
      Function.update (of find) name (group.map Group.facts) := by
  funext other
  rw [of, Function.update_apply, Function.update_apply, apply_ite (Option.map Group.facts)]
  rfl

/-- The content after an operation. A group that is edited is created if it is not there, and keeps
the edits that were made. -/
def perform (content : Content) : Operation → Content
  | .put group => Function.update content group.name (some group.facts)
  | .remove name => Function.update content name none
  | .update name edits =>
    let facts := (content name).getD (.blank name)
    Function.update content name (some ((Group.made edits).foldl Group.Facts.edit facts))
  | .snapshot => content

end Content

/-- The last of several groups with one name. -/
def last? (groups : List Group) (name : String) : Option Group :=
  groups.reverse.find? fun group => group.name = name

/-- Whether an operation is an edit that comes to its end. -/
def Operation.completes : Operation → Bool
  | put _ | remove _ => true
  | update _ edits => !edits.any Group.Edit.breaksOff
  | snapshot => false

/-- Whether an operation is an edit that breaks off. -/
def Operation.breaksOff : Operation → Bool
  | update _ edits => edits.any Group.Edit.breaksOff
  | _ => false

theorem get?_ofGroups (groups : List Group) :
    (GroupMap.ofGroups groups).get? = last? groups := by
  funext name
  rw [GroupMap.ofGroups, NameMap.get?_ofList, ← List.map_reverse, last?]
  induction groups.reverse with
  | nil => rfl
  | cons first rest ih =>
      rw [List.map_cons, NameMap.lookup_cons_eq, List.find?_cons, ih]
      by_cases hName : first.name = name
      · simp [hName]
      · simp [hName, Ne.symm hName]

/-! ### One operation -/

/-- An update counts as a generation if none of its edits breaks off, and else poisons the store.
The group is kept as its edits leave it in any case. -/
theorem update_eq (store : Store) (name : String) (edits : List Group.Edit) :
    let edited := ((store.groups.get? name).getD { name }).editAll edits
    store.update name edits = (edited.1, edits.any Group.Edit.breaksOff,
      { groups := store.groups.insert name edited.2.1
        generation := store.generation + if edits.any Group.Edit.breaksOff then 0 else 1
        poisoned := store.poisoned || edits.any Group.Edit.breaksOff }) := by
  intro edited
  have hBroken : edited.2.2 = edits.any Group.Edit.breaksOff := (Group.facts_editAll ..).2.2
  have hUpdate : store.update name edits =
      let groups := store.groups.insert name edited.2.1
      if edited.2.2 then (edited.1, true, { store with groups, poisoned := true })
      else (edited.1, false, { store with groups, generation := store.generation + 1 }) := rfl
  rw [← hBroken, hUpdate]
  cases edited.2.2 with
  | true => simp
  | false => simp

/-- What is known of a group that is about to be edited. -/
theorem facts_edited (store : Store) (name : String) :
    ((store.groups.get? name).getD { name }).facts =
      (Content.of store.groups.get? name).getD (.blank name) := by
  rw [Content.of]
  cases store.groups.get? name with
  | none => rfl
  | some group => rfl

theorem content_perform (store : Store) (operation : Operation) :
    Content.of (store.perform operation).2.groups.get? =
      (Content.of store.groups.get?).perform operation := by
  cases operation with
  | put group =>
      show Content.of (store.groups.insert group.name group).get? = _
      rw [NameMap.get?_insert_eq, Content.of_update]
      rfl
  | remove name =>
      show Content.of (store.groups.erase name).get? = _
      rw [NameMap.get?_erase_eq, Content.of_update]
      rfl
  | update name edits =>
      show Content.of (store.update name edits).2.2.groups.get? = _
      obtain ⟨-, hFacts, -⟩ := ((store.groups.get? name).getD { name }).facts_editAll edits
      rw [update_eq, NameMap.get?_insert_eq, Content.of_update, Option.map_some, hFacts,
        facts_edited]
      rfl
  | snapshot => rfl

theorem generation_perform (store : Store) (operation : Operation) :
    (store.perform operation).2.generation =
      store.generation + if operation.completes then 1 else 0 := by
  cases operation with
  | put group => rfl
  | remove name => rfl
  | update name edits =>
      show (store.update name edits).2.2.generation = _
      rw [update_eq]
      cases hBroken : edits.any Group.Edit.breaksOff <;> simp [Operation.completes, hBroken]
  | snapshot => exact (UInt64.add_zero _).symm

theorem poisoned_perform (store : Store) (operation : Operation) :
    (store.perform operation).2.poisoned = (store.poisoned || operation.breaksOff) := by
  cases operation with
  | update name edits =>
      show (store.update name edits).2.2.poisoned = _
      rw [update_eq]
      rfl
  | put | remove | snapshot => exact (Bool.or_false _).symm

/-- The answer to an operation tells whether an edit was completed, and whether one broke off. -/
theorem completed_perform (store : Store) (operation : Operation) :
    (store.perform operation).1.completed = operation.completes := by
  cases operation with
  | update name edits =>
      show (!(store.update name edits).2.1) = _
      rw [update_eq]
      rfl
  | put | remove | snapshot => rfl

theorem brokeOff_perform (store : Store) (operation : Operation) :
    (store.perform operation).1.brokeOff = operation.breaksOff := by
  cases operation with
  | update name edits =>
      show (store.update name edits).2.1 = _
      rw [update_eq]
      rfl
  | put | remove | snapshot => rfl

theorem Operation.breaksOff_of_completes {operation : Operation}
    (hCompletes : operation.completes = true) : operation.breaksOff = false := by
  cases operation with
  | update name edits => simpa only [completes, Bool.not_eq_true', breaksOff] using hCompletes
  | put | remove | snapshot => rfl

/-- What is no edit changes nothing. -/
theorem perform_of_idle (store : Store) {operation : Operation}
    (hCompletes : operation.completes = false) (hBroken : operation.breaksOff = false) :
    (store.perform operation).2 = store := by
  cases operation with
  | put | remove => cases hCompletes
  | update name edits =>
      rw [Operation.completes, show edits.any Group.Edit.breaksOff = false from hBroken] at hCompletes
      cases hCompletes
  | snapshot => rfl

/-! ### Runs -/

/-- A store after operations, one after the other. -/
def after (store : Store) (operations : List Operation) : Store :=
  operations.foldl (fun store operation => (store.perform operation).2) store

theorem after_append (store : Store) (earlier later : List Operation) :
    store.after (earlier ++ later) = (store.after earlier).after later :=
  List.foldl_append

theorem keyed_after {store : Store} (hKeyed : GroupMap.Keyed store.groups)
    (operations : List Operation) : GroupMap.Keyed (store.after operations).groups := by
  induction operations generalizing store with
  | nil => exact hKeyed
  | cons first rest ih => exact ih (keyed_perform hKeyed first)

theorem content_after (store : Store) (operations : List Operation) :
    Content.of (store.after operations).groups.get? =
      operations.foldl Content.perform (Content.of store.groups.get?) := by
  induction operations generalizing store with
  | nil => rfl
  | cons first rest ih =>
      show Content.of ((store.perform first).2.after rest).groups.get? = _
      rw [ih, content_perform, List.foldl_cons]

theorem generation_after (store : Store) (operations : List Operation) :
    (store.after operations).generation =
      store.generation + .ofNat (operations.countP Operation.completes) := by
  induction operations generalizing store with
  | nil => exact (UInt64.add_zero _).symm
  | cons first rest ih =>
      show ((store.perform first).2.after rest).generation = _
      rw [ih, generation_perform, List.countP_cons, UInt64.ofNat_add, UInt64.add_assoc,
        UInt64.add_comm (.ofNat (rest.countP _))]
      cases first.completes <;> rfl

theorem poisoned_after (store : Store) (operations : List Operation) :
    (store.after operations).poisoned =
      (store.poisoned || operations.any Operation.breaksOff) := by
  induction operations generalizing store with
  | nil => exact (Bool.or_false _).symm
  | cons first rest ih =>
      show ((store.perform first).2.after rest).poisoned = _
      rw [ih, poisoned_perform, List.any_cons, Bool.or_assoc]

theorem after_of_idle (store : Store) {operations : List Operation}
    (hCompletes : operations.countP Operation.completes = 0)
    (hBroken : operations.any Operation.breaksOff = false) : store.after operations = store := by
  induction operations with
  | nil => rfl
  | cons first rest ih =>
      obtain ⟨hFirst, hRest⟩ := List.forall_mem_cons.1 (List.countP_eq_zero.1 hCompletes)
      obtain ⟨hFirstSound, hRestSound⟩ := Bool.or_eq_false_iff.1 hBroken
      show (store.perform first).2.after rest = store
      rw [perform_of_idle store (Bool.eq_false_iff.2 hFirst) hFirstSound]
      exact ih (List.countP_eq_zero.2 hRest) hRestSound

/-! ### From the start -/

section

variable {groups : List Group} {operations : List Operation}

theorem toNat_generation (groups : List Group)
    (hEdits : operations.countP Operation.completes < UInt64.size) :
    ((ofGroups groups).after operations).generation.toNat =
      operations.countP Operation.completes := by
  rw [generation_after, show (ofGroups groups).generation = 0 from rfl, UInt64.zero_add,
    UInt64.toNat_ofNat_of_lt' hEdits]

theorem content_after_ofGroups (groups : List Group) (operations : List Operation) :
    Content.of ((ofGroups groups).after operations).groups.get? =
      operations.foldl Content.perform (Content.of (last? groups)) := by
  rw [content_after, ← get?_ofGroups]
  rfl

/-- Before any edit broke off, a snapshot gives the store as it is, and afterwards none is given. -/
theorem snapshot_after (groups : List Group) (operations : List Operation) :
    let store := (ofGroups groups).after operations
    store.snapshot = if operations.any Operation.breaksOff then .error .poisoned
      else .ok ⟨store.generation, store.groups⟩ := by
  intro store
  have hPoisoned : store.poisoned = operations.any Operation.breaksOff := poisoned_after ..
  rw [← hPoisoned]
  cases hStore : store.poisoned with
  | true => exact snapshot_of_poisoned hStore
  | false => exact snapshot_of_sound (keyed_after (GroupMap.keyed_ofGroups groups) _) hStore

/-- Nothing was edited between two snapshots that have one generation. -/
theorem snapshot_eq_of_append {earlier later : List Operation}
    (hEdits : (earlier ++ later).countP Operation.completes < UInt64.size) {first second : Snapshot}
    (hFirst : ((ofGroups groups).after earlier).snapshot = .ok first)
    (hSecond : ((ofGroups groups).after (earlier ++ later)).snapshot = .ok second)
    (hSame : first.generation = second.generation) : first = second := by
  have hBoth := hSecond
  rw [snapshot_after] at hFirst hBoth
  split at hFirst
  · cases hFirst
  split at hBoth
  · cases hBoth
  next hSound =>
  cases hFirst
  cases hBoth
  rw [List.countP_append] at hEdits
  have hCount := congrArg UInt64.toNat hSame
  rw [toNat_generation groups (by omega), toNat_generation groups (by rwa [List.countP_append]),
    List.countP_append] at hCount
  have hIdle : later.any Operation.breaksOff = false := by
    rw [List.any_append] at hSound
    simpa using (Bool.or_eq_false_iff.1 (Bool.eq_false_iff.2 hSound)).2
  rw [after_append, after_of_idle _ (by omega) hIdle]

end

/-- After any operations a store lists each group under its own name, and finds what a plain map
finds to which the edits were made, each edit of a group as it is made to a plain one. Who puts a
group in or takes one out is given what was there, and who edits one the answers of the edits made.
The generation counts the edits that were completed; one that breaks off keeps what was made of it,
a created group included, and does not count. As long as none broke off, a snapshot gives the
content and the generation, and afterwards none is given, while edits go on as before. Snapshots of
one generation are equal. -/
theorem reflects_edits (groups : List Group) (operations : List Operation)
    (hEdits : operations.countP Operation.completes < UInt64.size) :
    let store := (ofGroups groups).after operations
    let content := operations.foldl Content.perform (Content.of (last? groups))
    (∀ name group, store.groups.get? name = some group → group.name = name) ∧
    (Function.Injective Content.of ∧ Content.of store.groups.get? = content) ∧
    (∀ group, ∃ old, (store.perform (.put group)).1 = .previous old ∧
      old.map Group.facts = content group.name) ∧
    (∀ name, ∃ old, (store.perform (.remove name)).1 = .previous old ∧
      old.map Group.facts = content name) ∧
    (∀ name edits, (store.perform (.update name edits)).1 =
      .edited (((content name).getD (.blank name)).answers (Group.made edits))
        (edits.any Group.Edit.breaksOff)) ∧
    store.generation.toNat = operations.countP Operation.completes ∧
    (∀ name edits, edits.any Group.Edit.breaksOff = true →
      let broken := (store.perform (.update name edits)).2
      broken.generation = store.generation ∧
        Content.of broken.groups.get? = Function.update content name
          (some ((Group.made edits).foldl Group.Facts.edit ((content name).getD (.blank name))))) ∧
    (operations.any Operation.breaksOff = false → ∃ snapshot, store.snapshot = .ok snapshot ∧
      snapshot.generation = store.generation ∧ Content.of snapshot.group? = content) ∧
    (operations.any Operation.breaksOff = true → store.snapshot = .error .poisoned) ∧
    ∀ earlier later first second, earlier <+: operations → later <+: operations →
      ((ofGroups groups).after earlier).snapshot = .ok first →
      ((ofGroups groups).after later).snapshot = .ok second →
      first.generation = second.generation → first = second := by
  intro store content
  have hKeyed : GroupMap.Keyed store.groups := keyed_after (GroupMap.keyed_ofGroups groups) _
  have hContent : Content.of store.groups.get? = content :=
    content_after_ofGroups groups operations
  have hSnapshot := snapshot_after groups operations
  refine ⟨fun name group => hKeyed.name_eq, ⟨Content.of_injective, hContent⟩, fun group => ?_,
    fun name => ?_, fun name edits => ?_, toNat_generation groups hEdits,
    fun name edits hBroken => ⟨?_, ?_⟩, fun hSound => ?_, fun hBroken => ?_,
    fun earlier later first second hEarlier hLater hFirst hSecond hSame => ?_⟩
  · exact ⟨store.groups.get? group.name, rfl, congrFun hContent group.name⟩
  · exact ⟨store.groups.get? name, rfl, congrFun hContent name⟩
  · obtain ⟨hAnswers, -, -⟩ := ((store.groups.get? name).getD { name }).facts_editAll edits
    show Answer.edited (store.update name edits).1 (store.update name edits).2.1 = _
    rw [update_eq, hAnswers, facts_edited, hContent]
  · rw [generation_perform, Operation.completes, hBroken]
    exact UInt64.add_zero _
  · rw [content_perform, hContent]
    rfl
  · exact ⟨⟨store.generation, store.groups⟩, by rw [hSnapshot, hSound]; rfl, rfl, hContent⟩
  · rw [hSnapshot, hBroken]
    rfl
  · -- Of two prefixes one is a prefix of the other, and no longer than all operations.
    have hBound : ∀ {part : List Operation}, part <+: operations →
        part.countP Operation.completes < UInt64.size := fun hPart =>
      Nat.lt_of_le_of_lt (hPart.sublist.countP_le) hEdits
    rcases List.prefix_or_prefix_of_prefix hEarlier hLater with ⟨rest, rfl⟩ | ⟨rest, rfl⟩
    · exact snapshot_eq_of_append (hBound hLater) hFirst hSecond hSame
    · exact (snapshot_eq_of_append (hBound hEarlier) hSecond hFirst hSame.symm).symm

/-- Of two groups with one name the last is kept. An update that breaks off leaves the group that it
created with the jar that it added, and the edits after it count, one that takes out nothing
included. -/
theorem reflects_broken_update :
    let web : Group := { name := "web", logFileSizeLimit := some 7 }
    let groups : List Group := [{ name := "web" }, web]
    let operations : List Operation :=
      [.update "app" [.addJar "a.jar", .fail, .addJar "b.jar"], .remove "none",
        .put { name := "db" }]
    let store := (ofGroups groups).after operations
    operations.countP Operation.completes < UInt64.size ∧ store.generation.toNat = 2 ∧
      store.snapshot = .error .poisoned ∧
      (store.perform (.remove "web")).1 = .previous (some web) ∧
      ∃ app, (store.perform (.remove "app")).1 = .previous (some app) ∧ app.name = "app" ∧
        (∀ jar, app.jars.contains jar = true ↔ jar = "a.jar") ∧ app.logFileSizeLimit = none ∧
        (store.perform (.update "app" [.removeJar "b.jar", .removeJar "a.jar"])).1 =
          .edited [.changed false, .changed true] false := by
  intro web groups operations store
  have hEdits : operations.countP Operation.completes < UInt64.size := by decide
  obtain ⟨-, -, -, hRemove, hUpdate, hGeneration, -, -, hBroken, -⟩ :=
    reflects_edits groups operations hEdits
  obtain ⟨kept, hKept, hWeb⟩ := hRemove "web"
  have hSame : kept = some web := Option.map_injective Group.facts_injective hWeb
  obtain ⟨left, hLeft, hApp⟩ := hRemove "app"
  obtain ⟨app, rfl, hFacts⟩ := Option.map_eq_some_iff.1 hApp
  obtain ⟨hName, hJars, -, -, -, hLimit⟩ := Group.Facts.mk.inj hFacts
  refine ⟨hEdits, hGeneration, hBroken rfl, hSame ▸ hKept, app, hLeft, hName, fun jar => ?_, hLimit,
    hUpdate ..⟩
  rw [hJars, Function.update_apply]
  split
  · next hJar => exact ⟨fun _ => hJar, fun _ => rfl⟩
  · next hJar => exact ⟨fun hIn => (by cases hIn), fun hIs => absurd hIs hJar⟩

end Store

end ConfigExchange
