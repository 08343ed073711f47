import ConfigExchange.Configuration.Cache
import ConfigExchange.Configuration.Source
import ConfigExchange.Proofs.Groups

/-! What one operation does to a store, and what one access does to a cache. -/
namespace ConfigExchange

namespace Group

/-- No edit changes the name of a group. -/
theorem name_of_edit {group next : Group} {edit : Edit} {answer : EditAnswer}
    (h : group.edit edit = some (answer, next)) : next.name = group.name := by
  cases edit with
  | fail => cases h
  | _ =>
      simp only [Group.edit, Option.some.injEq, Prod.mk.injEq] at h
      rw [← h.2]

theorem name_editAll (group : Group) (edits : List Edit) :
    (group.editAll edits).2.1.name = group.name := by
  induction edits generalizing group with
  | nil => rfl
  | cons first rest ih =>
      unfold editAll
      cases hFirst : group.edit first with
      | none => rfl
      | some result => exact (ih result.2).trans (name_of_edit hFirst)

end Group

namespace Store

/-- Whether an answer is that of an edit that was completed. -/
def Answer.completed : Answer → Bool
  | previous _ => true
  | edited _ broken => !broken
  | snapshot _ => false

/-- Whether an answer is that of an edit that broke off. -/
def Answer.brokeOff : Answer → Bool
  | edited _ broken => broken
  | _ => false

/-- An operation on a store either completes an edit, which counts as one generation, or breaks off
and poisons the store, or leaves the store alone. -/
inductive Turn (store : Store) : Answer → Store → Prop where
  | completes {answer : Answer} {next : Store} (hCompleted : answer.completed = true)
      (hBroken : answer.brokeOff = false) (hGeneration : next.generation = store.generation + 1)
      (hPoisoned : next.poisoned = store.poisoned) : Turn store answer next
  | breaksOff {answer : Answer} {next : Store} (hCompleted : answer.completed = false)
      (hBroken : answer.brokeOff = true) (hGeneration : next.generation = store.generation)
      (hPoisoned : next.poisoned = true) : Turn store answer next
  | reads {answer : Answer} (hCompleted : answer.completed = false)
      (hBroken : answer.brokeOff = false) : Turn store answer store

theorem turn_perform (store : Store) (operation : Operation) :
    Turn store (store.perform operation).1 (store.perform operation).2 := by
  cases operation with
  | put group => exact .completes rfl rfl rfl rfl
  | remove name => exact .completes rfl rfl rfl rfl
  | update name edits =>
      simp only [perform, update]
      split
      · exact .breaksOff rfl rfl rfl rfl
      · exact .completes rfl rfl rfl rfl
  | snapshot => exact .reads rfl rfl

/-- Every operation leaves the groups listed under their own names. -/
theorem keyed_perform {store : Store} (hKeyed : GroupMap.Keyed store.groups)
    (operation : Operation) : GroupMap.Keyed (store.perform operation).2.groups := by
  cases operation with
  | put group => exact hKeyed.insert rfl
  | remove name => exact hKeyed.erase name
  | update name edits =>
      have hEdited : (((store.groups.get? name).getD { name }).editAll edits).2.1.name = name := by
        rw [Group.name_editAll]
        cases hFound : store.groups.get? name with
        | none => rfl
        | some group => exact hKeyed.name_eq hFound
      simp only [perform, update]
      split
      · exact hKeyed.insert hEdited
      · exact hKeyed.insert hEdited
  | snapshot => exact hKeyed

/-- A store that is not poisoned gives its configuration as it stands. -/
theorem snapshot_of_sound {store : Store} (hKeyed : GroupMap.Keyed store.groups)
    (hSound : store.poisoned = false) :
    store.snapshot = .ok ⟨store.generation, store.groups⟩ := by
  rw [snapshot, hSound, Snapshot.ofGroups, hKeyed.ofGroups_values]
  rfl

theorem snapshot_of_poisoned {store : Store} (hPoisoned : store.poisoned = true) :
    store.snapshot = .error .poisoned := by
  rw [snapshot, if_pos hPoisoned]

end Store

namespace Cache

/-- A hit comes from an entry with that key. -/
theorem mem_of_get {cache : Cache} {now : Micros} {key : CacheKey} {snapshot : Snapshot}
    (h : (cache.get now key).1 = some snapshot) :
    ∃ entry ∈ cache.entries, entry.key = key ∧ entry.snapshot = snapshot := by
  unfold get at h
  split at h
  · cases h
  · next entry hFind =>
    split at h
    · exact ⟨entry, List.mem_of_find?_eq_some hFind, by simpa using List.find?_some hFind,
        Option.some_inj.1 h⟩
    · cases h

/-- Looking a key up puts nothing in. -/
theorem mem_of_mem_get {cache : Cache} {now : Micros} {key : CacheKey} {entry : CacheEntry}
    (h : entry ∈ (cache.get now key).2.entries) : entry ∈ cache.entries := by
  unfold get at h
  split at h
  · exact h
  · next found hFind =>
    split at h
    · rcases List.mem_cons.1 h with rfl | h
      · exact List.mem_of_find?_eq_some hFind
      · exact (List.mem_filter.1 h).1
    · exact (List.mem_filter.1 h).1

/-- A snapshot is put in under its own generation. -/
theorem mem_of_mem_insert {cache : Cache} {now : Micros} {groups : NameSet} {snapshot : Snapshot}
    {entry : CacheEntry} (h : entry ∈ (cache.insert now groups snapshot).entries) :
    entry = ⟨⟨snapshot.generation, groups⟩, snapshot, now⟩ ∨ entry ∈ cache.entries := by
  rcases List.mem_cons.1 (List.mem_of_mem_take h) with hNew | hOld
  · exact .inl hNew
  · exact .inr (List.mem_filter.1 hOld).1

end Cache

end ConfigExchange
