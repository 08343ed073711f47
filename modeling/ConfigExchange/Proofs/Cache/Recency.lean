import ConfigExchange.Configuration.Cache
import Mathlib.Data.Finset.Card

/-! Which snapshots a cache keeps, told from the calls alone. A key is kept exactly as long as fewer
other keys than the cache has room for were touched after it. -/
namespace ConfigExchange

/-- A call on a cache. -/
inductive CacheCall where
  | get (now : Micros) (key : CacheKey)
  | insert (now : Micros) (groups : NameSet) (snapshot : Snapshot)
  | clear

/-- What the first call puts in, if anything, is not too old for the second one. -/
def CacheCall.Lasts (ttl : Micros) : CacheCall → CacheCall → Prop
  | insert put _ _, get now _ => now - put < ttl
  | _, _ => True

instance (ttl : Micros) : DecidableRel (CacheCall.Lasts ttl)
  | .insert put _ _, .get now _ => inferInstanceAs (Decidable (now - put < ttl))
  | .insert .., .insert .. | .insert .., .clear | .get .., _ | .clear, _ => isTrue trivial

/-- A cache, and what was done with it since everything was last dropped: what was put in, and which
keys were touched, that is put in or found. Of both the latest is in front. -/
structure CacheRun where
  cache : Cache
  inserted : List (CacheKey × Snapshot) := []
  touched : List CacheKey := []

/-- The other keys that were touched after the last touch of a key. -/
def CacheRun.touchedAfter (run : CacheRun) (key : CacheKey) : Finset CacheKey :=
  (run.touched.takeWhile fun other => decide (other ≠ key)).toFinset

/-! ### Keys in the order of their last touch -/

/-- Every key once, in the order of its last touch. -/
def latest : List CacheKey → List CacheKey
  | [] => []
  | key :: earlier => key :: (latest earlier).filter fun other => decide (other ≠ key)

theorem mem_latest {key : CacheKey} {touched : List CacheKey} :
    key ∈ latest touched ↔ key ∈ touched := by
  induction touched with
  | nil => rfl
  | cons first earlier ih =>
      by_cases hKey : key = first
      · simp [latest, hKey]
      · simp [latest, hKey, ih]

theorem nodup_latest (touched : List CacheKey) : (latest touched).Nodup := by
  induction touched with
  | nil => exact List.nodup_nil
  | cons first earlier ih => exact List.nodup_cons.2 ⟨by simp, ih.filter _⟩

/-- After the last touch of a key the same keys were touched, however often. -/
theorem mem_takeWhile_latest (key other : CacheKey) (touched : List CacheKey) :
    other ∈ (latest touched).takeWhile (fun found => decide (found ≠ key)) ↔
      other ∈ touched.takeWhile fun found => decide (found ≠ key) := by
  induction touched with
  | nil => rfl
  | cons first earlier ih =>
      by_cases hFirst : first = key
      · simp [latest, hFirst]
      · -- Whoever is taken out as touched again is not the key that is looked for.
        have hApart : (fun found => !decide (found ≠ first) || decide (found ≠ key)) =
            fun found => decide (found ≠ key) := by
          funext found
          by_cases hFound : found = first
          · simp [hFound, hFirst]
          · simp [hFound]
        rw [latest, List.takeWhile_cons_of_pos (by simpa using hFirst),
          List.takeWhile_cons_of_pos (by simpa using hFirst), List.takeWhile_filter, hApart,
          List.mem_cons, List.mem_cons, List.mem_filter, ih]
        by_cases hOther : other = first
        · simp [hOther]
        · simp [hOther]

theorem card_touchedAfter (run : CacheRun) (key : CacheKey) :
    (run.touchedAfter key).card =
      ((latest run.touched).takeWhile fun found => decide (found ≠ key)).length := by
  have hNodup := (List.takeWhile_sublist (fun found => decide (found ≠ key))).nodup
    (nodup_latest run.touched)
  rw [CacheRun.touchedAfter, ← List.toFinset_card_of_nodup hNodup]
  congr 1
  ext other
  rw [List.mem_toFinset, List.mem_toFinset, mem_takeWhile_latest]

/-- A key is among the first ones if it is there and few enough are in front of it. -/
theorem mem_take_iff (key : CacheKey) (keys : List CacheKey) (count : Nat) :
    key ∈ keys.take count ↔
      key ∈ keys ∧ (keys.takeWhile fun found => decide (found ≠ key)).length < count := by
  induction keys generalizing count with
  | nil => simp
  | cons first rest ih =>
      cases count with
      | zero => simp
      | succ count =>
          by_cases hFirst : first = key
          · simp [hFirst]
          · simp [ih, hFirst, Ne.symm hFirst]

/-- A key that is put in front makes room by at most one, and that was in the way before. -/
theorem take_filter_take {keys : List CacheKey} (hNodup : keys.Nodup) (key : CacheKey)
    (count : Nat) :
    ((keys.take (count + 1)).filter fun other => decide (other ≠ key)).take count =
      (keys.filter fun other => decide (other ≠ key)).take count := by
  induction keys generalizing count with
  | nil => rfl
  | cons first rest ih =>
      obtain ⟨hFirst, hRest⟩ := List.nodup_cons.1 hNodup
      rw [List.take_succ_cons]
      by_cases hKey : first = key
      · subst hKey
        have hAbsent : ∀ other ∈ rest, decide (other ≠ first) = true := by
          intro other hOther
          exact decide_eq_true fun hSame => hFirst (hSame ▸ hOther)
        rw [List.filter_cons_of_neg (by simp), List.filter_cons_of_neg (by simp),
          List.filter_eq_self.2 hAbsent,
          List.filter_eq_self.2 fun other hOther => hAbsent other (List.mem_of_mem_take hOther),
          List.take_take, Nat.min_self]
      · rw [List.filter_cons_of_pos (by simpa using hKey),
          List.filter_cons_of_pos (by simpa using hKey)]
        cases count with
        | zero => rfl
        | succ count => rw [List.take_succ_cons, List.take_succ_cons, ih hRest]

/-- The first keys after a touch, told from the first keys before it. -/
theorem take_latest_cons (key : CacheKey) (touched : List CacheKey) (capacity : Nat) :
    (latest (key :: touched)).take capacity =
      (key :: ((latest touched).take capacity).filter fun other => decide (other ≠ key)).take
        capacity := by
  cases capacity with
  | zero => rfl
  | succ count =>
      rw [latest, List.take_succ_cons, List.take_succ_cons,
        take_filter_take (nodup_latest touched) key count]

/-- If the key was among them, nothing is dropped. -/
theorem take_latest_cons_of_mem {key : CacheKey} {touched : List CacheKey} {capacity : Nat}
    (hKey : key ∈ (latest touched).take capacity) :
    (latest (key :: touched)).take capacity =
      key :: ((latest touched).take capacity).filter fun other => decide (other ≠ key) := by
  rw [take_latest_cons]
  apply List.take_of_length_le
  have hFewer : (((latest touched).take capacity).filter fun other => decide (other ≠ key)).length <
      ((latest touched).take capacity).length :=
    List.length_filter_lt_length_iff_exists.2 ⟨key, hKey, by simp⟩
  have hLength := List.length_take_le capacity (latest touched)
  rw [List.length_cons]
  omega

/-! ### Entries -/

namespace Cache

variable {cache : Cache} {now : Micros} {key : CacheKey}

theorem map_key_without (cache : Cache) (key : CacheKey) :
    (cache.without key).map (·.key) =
      (cache.entries.map (·.key)).filter fun other => decide (other ≠ key) := by
  rw [without, List.filter_map]
  rfl

theorem get_of_absent (hAbsent : key ∉ cache.entries.map (·.key)) (now : Micros) :
    cache.get now key = (none, cache) := by
  have hNone : cache.entries.find? (fun entry => decide (entry.key = key)) = none := by
    rw [List.find?_eq_none]
    intro entry hEntry hKey
    exact hAbsent (List.mem_map.2 ⟨entry, hEntry, of_decide_eq_true hKey⟩)
  rw [get, hNone]

/-- What is there and not too old is found, and comes to the front. -/
theorem get_of_present (hPresent : key ∈ cache.entries.map (·.key))
    (hFresh : ∀ entry ∈ cache.entries, now - entry.insertedAt < cache.ttl) :
    ∃ entry ∈ cache.entries, entry.key = key ∧
      cache.get now key =
        (some entry.snapshot, { cache with entries := entry :: cache.without key }) := by
  cases hFound : cache.entries.find? fun entry => decide (entry.key = key) with
  | none =>
      obtain ⟨entry, hEntry, hKey⟩ := List.mem_map.1 hPresent
      exact absurd (decide_eq_true hKey) (List.find?_eq_none.1 hFound entry hEntry)
  | some entry =>
      have hEntry := List.mem_of_find?_eq_some hFound
      have hKey : entry.key = key := by simpa using List.find?_some hFound
      refine ⟨entry, hEntry, hKey, ?_⟩
      rw [get, hFound]
      exact if_pos (hFresh entry hEntry)

/-- With no time to live everything is too old: what is looked up is taken out. -/
theorem get_of_ttl_zero (hZero : cache.ttl = 0) (now : Micros) (key : CacheKey) :
    cache.get now key = (none, { cache with entries := cache.without key }) := by
  unfold get
  split
  · next hNone =>
    have hSame : cache.without key = cache.entries := by
      rw [without, List.filter_eq_self]
      intro entry hEntry
      exact decide_eq_true fun hKey =>
        List.find?_eq_none.1 hNone entry hEntry (decide_eq_true hKey)
    rw [hSame]
  · rw [if_neg (by simp [hZero])]

end Cache

/-! ### Runs of calls -/

namespace CacheRun

def perform (run : CacheRun) : CacheCall → CacheRun
  | .get now key =>
    let (found, cache) := run.cache.get now key
    { run with cache, touched := if found.isSome then key :: run.touched else run.touched }
  | .insert now groups snapshot =>
    let key : CacheKey := ⟨snapshot.generation, groups⟩
    { cache := run.cache.insert now groups snapshot
      inserted := (key, snapshot) :: run.inserted
      touched := key :: run.touched }
  | .clear => { cache := run.cache.clear }

/-- The calls on a new cache. -/
def ofCalls (capacity : Nat) (ttl : Micros) (calls : List CacheCall) : CacheRun :=
  calls.foldl perform { cache := { capacity, ttl } }

theorem ofCalls_concat (capacity : Nat) (ttl : Micros) (calls : List CacheCall) (call : CacheCall) :
    ofCalls capacity ttl (calls ++ [call]) = (ofCalls capacity ttl calls).perform call :=
  List.foldl_concat ..

/-- What holds of a cache all the time, as long as nothing in it is too old. -/
structure Sound (capacity : Nat) (ttl : Micros) (calls : List CacheCall) (run : CacheRun) :
    Prop where
  bound : run.cache.capacity = capacity
  life : run.cache.ttl = ttl
  keys : run.cache.entries.map (·.key) = (latest run.touched).take capacity
  snapshots : ∀ entry ∈ run.cache.entries, run.inserted.lookup entry.key = some entry.snapshot
  inserted : ∀ key, key ∈ run.touched ↔ key ∈ run.inserted.map (·.1)
  times : ∀ entry ∈ run.cache.entries, ∃ groups snapshot,
    CacheCall.insert entry.insertedAt groups snapshot ∈ calls

variable {capacity : Nat} {ttl now : Micros} {calls : List CacheCall} {run : CacheRun}
  {key : CacheKey}

/-- What was put in is not too old for a call that it lasts for. -/
theorem Sound.fresh (hSound : Sound capacity ttl calls run)
    (hLasts : ∀ call ∈ calls, call.Lasts ttl (.get now key)) :
    ∀ entry ∈ run.cache.entries, now - entry.insertedAt < run.cache.ttl := by
  intro entry hEntry
  obtain ⟨groups, snapshot, hCall⟩ := hSound.times entry hEntry
  rw [hSound.life]
  exact hLasts _ hCall

theorem Sound.get (hSound : Sound capacity ttl calls run)
    (hLasts : ∀ call ∈ calls, call.Lasts ttl (.get now key)) :
    Sound capacity ttl (calls ++ [.get now key]) (run.perform (.get now key)) := by
  by_cases hKey : key ∈ run.cache.entries.map (·.key)
  · obtain ⟨entry, hEntry, hSame, hGet⟩ := Cache.get_of_present hKey (hSound.fresh hLasts)
    have hOld {other : CacheEntry} (hOther : other ∈ entry :: run.cache.without key) :
        other ∈ run.cache.entries := by
      rcases List.mem_cons.1 hOther with rfl | hRest
      · exact hEntry
      · exact List.mem_of_mem_filter hRest
    simp only [perform, hGet, Option.isSome_some, if_true]
    refine ⟨hSound.bound, hSound.life, ?_, fun other hOther => hSound.snapshots other (hOld hOther),
      fun other => ?_, fun other hOther => ?_⟩
    · rw [hSound.keys] at hKey
      rw [List.map_cons, Cache.map_key_without, hSame, hSound.keys, take_latest_cons_of_mem hKey]
    · have hTouched : key ∈ run.touched :=
        mem_latest.1 (List.mem_of_mem_take (hSound.keys ▸ hKey))
      rw [← hSound.inserted, List.mem_cons, or_iff_right_of_imp]
      rintro rfl
      exact hTouched
    · obtain ⟨groups, snapshot, hCall⟩ := hSound.times other (hOld hOther)
      exact ⟨groups, snapshot, List.mem_append_left _ hCall⟩
  · have hSame : run.perform (.get now key) = run := by
      simp only [perform, Cache.get_of_absent hKey, Option.isSome_none, Bool.false_eq_true,
        if_false]
    rw [hSame]
    refine ⟨hSound.bound, hSound.life, hSound.keys, hSound.snapshots, hSound.inserted,
      fun entry hEntry => ?_⟩
    obtain ⟨groups, snapshot, hCall⟩ := hSound.times entry hEntry
    exact ⟨groups, snapshot, List.mem_append_left _ hCall⟩

theorem Sound.insert (hSound : Sound capacity ttl calls run) (now : Micros) (groups : NameSet)
    (snapshot : Snapshot) :
    Sound capacity ttl (calls ++ [.insert now groups snapshot])
      (run.perform (.insert now groups snapshot)) := by
  refine ⟨hSound.bound, hSound.life, ?_, fun entry hEntry => ?_, fun key => ?_,
    fun entry hEntry => ?_⟩
  · show List.map _ (List.take run.cache.capacity _) = (latest (_ :: run.touched)).take capacity
    rw [List.map_take, List.map_cons, Cache.map_key_without, hSound.keys, hSound.bound,
      take_latest_cons]
  · show ((_, snapshot) :: run.inserted).lookup entry.key = some entry.snapshot
    rcases List.mem_cons.1 (List.mem_of_mem_take hEntry) with rfl | hOld
    · exact List.lookup_cons_self
    · obtain ⟨hMem, hOther⟩ := List.mem_filter.1 hOld
      rw [List.lookup_cons, beq_eq_false_iff_ne.2 (of_decide_eq_true hOther)]
      exact hSound.snapshots entry hMem
  · simp only [perform, List.mem_cons, List.map_cons, hSound.inserted]
  · rcases List.mem_cons.1 (List.mem_of_mem_take hEntry) with rfl | hOld
    · exact ⟨groups, snapshot, List.mem_append_right _ List.mem_cons_self⟩
    · obtain ⟨others, other, hCall⟩ := hSound.times entry (List.mem_of_mem_filter hOld)
      exact ⟨others, other, List.mem_append_left _ hCall⟩

theorem sound_ofCalls (hLasts : calls.Pairwise (CacheCall.Lasts ttl)) :
    Sound capacity ttl calls (ofCalls capacity ttl calls) := by
  induction calls using List.reverseRecOn with
  | nil => exact ⟨rfl, rfl, List.take_nil.symm, nofun, fun _ => Iff.rfl, nofun⟩
  | append_singleton calls call ih =>
      obtain ⟨hEarlier, -, hLast⟩ := List.pairwise_append.1 hLasts
      have hSound := ih hEarlier
      rw [ofCalls_concat]
      cases call with
      | get now key =>
          exact hSound.get fun earlier hMem => hLast earlier hMem _ List.mem_cons_self
      | insert now groups snapshot => exact hSound.insert now groups snapshot
      | clear =>
          exact ⟨hSound.bound, hSound.life, List.take_nil.symm, nofun, fun _ => Iff.rfl, nofun⟩

/-- What is found is what was put in last for its key, if few enough others were touched since. -/
theorem Sound.get_eq_some_iff (hSound : Sound capacity ttl calls run)
    (hLasts : ∀ call ∈ calls, call.Lasts ttl (.get now key)) (snapshot : Snapshot) :
    (run.cache.get now key).1 = some snapshot ↔
      run.inserted.lookup key = some snapshot ∧
        (run.touchedAfter key).card < capacity := by
  have hKept : key ∈ run.cache.entries.map (·.key) ↔
      key ∈ run.touched ∧ (run.touchedAfter key).card < capacity := by
    rw [hSound.keys, mem_take_iff, mem_latest, card_touchedAfter]
  by_cases hKey : key ∈ run.cache.entries.map (·.key)
  · obtain ⟨entry, hEntry, hSame, hGet⟩ := Cache.get_of_present hKey (hSound.fresh hLasts)
    rw [hGet, ← hSame, hSound.snapshots entry hEntry, and_iff_left (hSame ▸ (hKept.1 hKey).2)]
  · rw [Cache.get_of_absent hKey]
    refine ⟨nofun, fun ⟨hLookup, hFew⟩ => absurd (hKept.2 ⟨?_, hFew⟩) hKey⟩
    rw [hSound.inserted]
    by_contra hNone
    rw [List.lookup_eq_none_iff.2] at hLookup
    · cases hLookup
    · intro pair hPair
      exact bne_iff_ne.2 fun hSame => hNone (List.mem_map.2 ⟨pair, hPair, hSame.symm⟩)

/-- There are as many entries as there were keys, up to the capacity. -/
theorem Sound.size_eq (hSound : Sound capacity ttl calls run) :
    run.cache.size = min capacity (run.inserted.map (·.1)).toFinset.card := by
  have hSame : (run.inserted.map (·.1)).toFinset = (latest run.touched).toFinset := by
    ext key
    rw [List.mem_toFinset, List.mem_toFinset, mem_latest, hSound.inserted]
  have hLength := congrArg List.length hSound.keys
  rw [List.length_map, List.length_take] at hLength
  rw [hSame, List.toFinset_card_of_nodup (nodup_latest _)]
  exact hLength

theorem ttl_ofCalls (capacity : Nat) (ttl : Micros) (calls : List CacheCall) :
    (ofCalls capacity ttl calls).cache.ttl = ttl := by
  induction calls using List.reverseRecOn with
  | nil => rfl
  | append_singleton calls call ih =>
      rw [ofCalls_concat]
      cases call with
      | get now key =>
          simp only [perform, Cache.get]
          split
          · exact ih
          · split <;> exact ih
      | insert | clear => exact ih

/-- As long as nothing is too old, a key is found exactly if it was put in since everything was last
dropped and fewer other keys than there is room for were touched after its last touch, and what is
found is what was put in last; there are as many entries as there are keys that were put in, up to
the capacity. With no time to live nothing is ever found, and a key that is looked up is taken out
while all other entries stay. -/
theorem keeps_latest (capacity : Nat) (ttl : Micros) (calls : List CacheCall) :
    let run := ofCalls capacity ttl calls
    (∀ now key, (calls ++ [CacheCall.get now key]).Pairwise (CacheCall.Lasts ttl) → ∀ snapshot,
      ((run.cache.get now key).1 = some snapshot ↔
        run.inserted.lookup key = some snapshot ∧ (run.touchedAfter key).card < capacity)) ∧
    (calls.Pairwise (CacheCall.Lasts ttl) →
      run.cache.size = min capacity (run.inserted.map (·.1)).toFinset.card ∧
        run.cache.size ≤ capacity) ∧
    (ttl = 0 → ∀ now key, (run.cache.get now key).1 = none ∧
      (run.cache.get now key).2.entries =
        run.cache.entries.filter fun entry => decide (entry.key ≠ key)) := by
  intro run
  refine ⟨fun now key hLasts => ?_, fun hLasts => ?_, fun hZero now key => ?_⟩
  · obtain ⟨hEarlier, -, hLast⟩ := List.pairwise_append.1 hLasts
    exact (sound_ofCalls hEarlier).get_eq_some_iff
      fun call hCall => hLast call hCall _ List.mem_cons_self
  · have hSound : Sound capacity ttl calls run := sound_ofCalls hLasts
    have hSize := hSound.size_eq
    exact ⟨hSize, hSize ▸ Nat.min_le_left ..⟩
  · rw [Cache.get_of_ttl_zero ((ttl_ofCalls capacity ttl calls).trans hZero)]
    exact ⟨rfl, rfl⟩

/-- There is room for two. The first is looked up before a third comes, so the second has to go. -/
theorem keeps_latest_looked_up :
    let first : CacheKey := ⟨1, ∅⟩
    let second : CacheKey := ⟨2, ∅⟩
    let calls : List CacheCall := [.insert 0 ∅ (.ofGroups 1 []), .insert 10 ∅ (.ofGroups 2 []),
      .get 20 first, .insert 30 ∅ (.ofGroups 3 [])]
    let run := ofCalls 2 60 calls
    (calls ++ [CacheCall.get 40 first]).Pairwise (CacheCall.Lasts 60) ∧
      (calls ++ [CacheCall.get 40 second]).Pairwise (CacheCall.Lasts 60) ∧
      (run.cache.get 40 first).1 = some (.ofGroups 1 []) ∧ (run.cache.get 40 second).1 = none ∧
      run.cache.size = 2 := by
  intro first second calls run
  have hFirst : (calls ++ [CacheCall.get 40 first]).Pairwise (CacheCall.Lasts 60) := by decide
  have hSecond : (calls ++ [CacheCall.get 40 second]).Pairwise (CacheCall.Lasts 60) := by decide
  obtain ⟨hFound, hSize, -⟩ := keeps_latest 2 60 calls
  refine ⟨hFirst, hSecond, (hFound 40 first hFirst _).2 (by decide +kernel), ?_,
    (hSize (by decide)).1.trans (by decide +kernel)⟩
  by_contra hSome
  obtain ⟨snapshot, hSnapshot⟩ := Option.ne_none_iff_exists'.1 hSome
  exact absurd ((hFound 40 second hSecond snapshot).1 hSnapshot).2 (by decide +kernel)

end CacheRun

end ConfigExchange
