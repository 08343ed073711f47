import ConfigExchange.Proofs.Locator

/-! Whether a cache can be noticed. Along every run of edits, transitions of the service and
requests, a site with a cache answers as one without, as long as no edit of its source has broken
off. After that, an answer that was kept before is still handed out, where the source itself only
fails. -/
namespace ConfigExchange

/-- What is kept of a store: nothing of a later generation, and of the current one what the store
gives, unless an edit has broken off. -/
def CacheEntry.Fits (entry : CacheEntry) (store : Store) : Prop :=
  entry.key.generation.toNat ≤ store.generation.toNat ∧
    (entry.key.generation = store.generation → store.poisoned = false →
      entry.snapshot = Snapshot.restrict ⟨store.generation, store.groups⟩ entry.key.groups)

theorem Store.toNat_generation_perform (store : Store) (operation : Operation) :
    (store.perform operation).2.generation.toNat ≤ store.generation.toNat + 1 := by
  have hTurn := turn_perform store operation
  revert hTurn
  generalize store.perform operation = result
  obtain ⟨answer, next⟩ := result
  intro hTurn
  cases hTurn with
  | completes _ _ hGeneration _ =>
      have hNext : next.generation = store.generation + 1 := hGeneration
      rw [hNext, UInt64.toNat_add]
      exact Nat.mod_le _ _
  | breaksOff _ _ hGeneration _ =>
      have hNext : next.generation = store.generation := hGeneration
      rw [hNext]
      exact Nat.le_succ _
  | reads _ _ => exact Nat.le_succ _

/-- A completed edit makes everything kept older than the store, one that breaks off poisons it. -/
theorem CacheEntry.Fits.perform {entry : CacheEntry} {store : Store} (hFits : entry.Fits store)
    (operation : Store.Operation) (hRoom : store.generation.toNat + 1 < UInt64.size) :
    entry.Fits (store.perform operation).2 := by
  have hTurn := Store.turn_perform store operation
  revert hTurn
  generalize store.perform operation = result
  obtain ⟨answer, next⟩ := result
  intro hTurn
  obtain ⟨hOld, hCurrent⟩ := hFits
  cases hTurn with
  | completes _ _ hGeneration _ =>
      have hNext : next.generation = store.generation + 1 := hGeneration
      have hLarger : next.generation.toNat = store.generation.toNat + 1 := by
        rw [hNext, UInt64.toNat_add]
        exact Nat.mod_eq_of_lt hRoom
      refine ⟨Nat.le_trans hOld (by simp [hLarger]), fun hSame _ => ?_⟩
      have hEqual : entry.key.generation.toNat = next.generation.toNat :=
        congrArg UInt64.toNat hSame
      omega
  | breaksOff _ _ hGeneration hPoisoned =>
      have hNext : next.generation = store.generation := hGeneration
      refine ⟨by rwa [hNext], fun _ hFine => ?_⟩
      rw [hPoisoned] at hFine
      cases hFine
  | reads _ _ => exact ⟨hOld, hCurrent⟩

/-! ### One request -/

section
variable {store : Store} {kept : Cache} {now : Micros} {requested : NameSet}

/-- A hit for a store that is not poisoned is what the store gives. -/
theorem Cache.get_of_fits (hFits : ∀ entry ∈ kept.entries, entry.Fits store)
    (hFine : store.poisoned = false) {snapshot : Snapshot}
    (hHit : (kept.get now ⟨store.generation, requested⟩).1 = some snapshot) :
    snapshot = Snapshot.restrict ⟨store.generation, store.groups⟩ requested := by
  obtain ⟨entry, hEntry, hKey, rfl⟩ := mem_of_get hHit
  have hCurrent := (hFits entry hEntry).2
  rw [hKey] at hCurrent
  exact hCurrent rfl hFine

/-- Without a cache, a store that is not poisoned gives what is asked for, and another one fails. -/
theorem Source.outcome_answer_none (hKeyed : GroupMap.Keyed store.groups) :
    ((Source.store store).answer none now requested).outcome =
      if store.poisoned then .failed SourceError.poisoned.message
      else .ready (Snapshot.restrict ⟨store.generation, store.groups⟩ requested) := by
  unfold answer
  cases hPoisoned : store.poisoned with
  | true => simp [snapshot, Store.snapshot_of_poisoned hPoisoned]
  | false => simp [snapshot, Store.snapshot_of_sound hKeyed hPoisoned]

/-- With a cache, a hit is handed out, and otherwise the source is asked. -/
theorem Source.outcome_answer_some (source : Source) :
    (source.answer (some kept) now requested).outcome =
      match (kept.get now ⟨source.generation, requested⟩).1 with
      | some snapshot => .ready snapshot
      | none => (source.answer none now requested).outcome := by
  unfold answer
  simp only
  cases kept.get now ⟨source.generation, requested⟩ with
  | mk hit left =>
      cases hit with
      | some snapshot => rfl
      | none => cases source.snapshot <;> rfl

/-- What a store's answer leaves in the cache fits the store. -/
theorem Source.fits_answer (hKeyed : GroupMap.Keyed store.groups)
    (hFits : ∀ entry ∈ kept.entries, entry.Fits store) {later : Cache}
    (hLater : ((Source.store store).answer (some kept) now requested).cache = some later) :
    ∀ entry ∈ later.entries, entry.Fits store := by
  have hLeft : ∀ entry ∈ (kept.get now ⟨store.generation, requested⟩).2.entries,
      entry.Fits store := fun entry hEntry => hFits entry (Cache.mem_of_mem_get hEntry)
  unfold answer at hLater
  simp only [generation] at hLater
  revert hLater hLeft
  cases kept.get now ⟨store.generation, requested⟩ with
  | mk hit left =>
      intro hLater hLeft
      cases hit with
      | some snapshot =>
          cases hLater
          exact hLeft
      | none =>
          cases hPoisoned : store.poisoned with
          | true =>
              simp only [snapshot, Store.snapshot_of_poisoned hPoisoned] at hLater
              cases hLater
              exact hLeft
          | false =>
              simp only [snapshot, Store.snapshot_of_sound hKeyed hPoisoned] at hLater
              cases hLater
              intro entry hEntry
              rcases Cache.mem_of_mem_insert hEntry with rfl | hOld
              · exact ⟨Nat.le_refl _, fun _ _ => rfl⟩
              · exact hLeft entry hOld

end

/-! ### Locators -/

namespace Locator

variable {locator : Locator} {edits : Nat} {requested : NameSet}

/-- A locator over stores, none of which was edited more often than that, and whose cache fits the
one that is published. -/
structure Sound (edits : Nat) (locator : Locator) : Prop where
  stores : ∀ index source, locator.find index = some source → ∃ store, source = .store store ∧
    GroupMap.Keyed store.groups ∧ store.generation.toNat ≤ edits
  kept : ∀ kept, locator.cache = some kept → ∀ entry ∈ kept.entries, ∃ index store,
    locator.service.published = some index ∧ locator.find index = some (.store store) ∧
      entry.Fits store

/-- The service runs over a store in which an edit broke off, and an answer is kept that the store
still counts as current. -/
def Outlives (locator : Locator) (requested : NameSet) : Prop :=
  ∃ index store kept, locator.service.status = .running ∧
    locator.service.runningSource = some index ∧ locator.find index = some (.store store) ∧
    store.poisoned = true ∧ locator.cache = some kept ∧
    (kept.get Cluster.cacheTime ⟨store.generation, requested⟩).1.isSome = true

/-- A service that runs answers from its source, and any other one by itself. -/
theorem answer_cases (hSound : Sound edits locator) (requested : NameSet) :
    (∃ outcome, ∀ useCache, locator.answer useCache requested =
        ⟨outcome, if useCache then locator.cache else none, false⟩) ∧ ¬ locator.Outlives requested ∨
      ∃ index store, locator.service.status = .running ∧
        locator.service.runningSource = some index ∧ locator.find index = some (.store store) ∧
        GroupMap.Keyed store.groups ∧ ∀ useCache, locator.answer useCache requested =
          (Source.store store).answer (if useCache then locator.cache else none) Cluster.cacheTime
            requested := by
  unfold answer Service.handle
  cases hStatus : locator.service.status with
  | disabled | starting | stopped =>
      refine .inl ⟨⟨_, fun _ => rfl⟩, ?_⟩
      rintro ⟨index, store, kept, hRunning, -⟩
      simp [hStatus] at hRunning
  | running =>
      cases hFound : locator.service.runningSource.bind locator.find with
      | none =>
          refine .inl ⟨⟨_, fun _ => rfl⟩, ?_⟩
          rintro ⟨index, store, kept, -, hSource, hStore, -⟩
          simp [hSource, hStore] at hFound
      | some source =>
          obtain ⟨index, hSource, hFind⟩ := Option.bind_eq_some_iff.1 hFound
          obtain ⟨store, rfl, hKeyed, -⟩ := hSound.stores index source hFind
          exact .inr ⟨index, store, rfl, hSource, hFind, hKeyed, fun _ => rfl⟩

/-- The source of a running service is the published one. -/
theorem published_of_running {index : Nat} (h : locator.service.runningSource = some index) :
    locator.service.published = some index := by
  unfold Service.runningSource at h
  split at h
  · exact h
  · cases h

theorem Sound.fits (hSound : Sound edits locator) {index : Nat} {store : Store}
    (hSource : locator.service.runningSource = some index)
    (hStore : locator.find index = some (.store store)) {kept : Cache}
    (hKept : locator.cache = some kept) : ∀ entry ∈ kept.entries, entry.Fits store := by
  intro entry hEntry
  obtain ⟨place, found, hPublished, hFound, hFits⟩ := hSound.kept kept hKept entry hEntry
  cases hPublished.symm.trans (published_of_running hSource)
  cases hFound.symm.trans hStore
  exact hFits

/-- The cache makes a difference exactly where a kept answer outlives an edit that broke off. -/
theorem Sound.answer_ne_iff (hSound : Sound edits locator) (requested : NameSet) :
    ((locator.answer true requested).outcome ≠ (locator.answer false requested).outcome ↔
        locator.Outlives requested) ∧
      ((locator.answer true requested).outcome ≠ (locator.answer false requested).outcome →
        (locator.answer false requested).outcome = .failed SourceError.poisoned.message ∧
          ∃ snapshot, (locator.answer true requested).outcome = .ready snapshot) := by
  obtain ⟨⟨outcome, hAnswer⟩, hNot⟩ | ⟨index, store, hStatus, hSource, hStore, hKeyed, hAnswer⟩ :=
    answer_cases hSound requested
  · simp [hAnswer, hNot]
  · rw [hAnswer true, hAnswer false]
    simp only [if_true, Bool.false_eq_true, if_false]
    cases hCache : locator.cache with
    | none =>
        refine ⟨⟨fun hNe => absurd rfl hNe, ?_⟩, fun hNe => absurd rfl hNe⟩
        rintro ⟨-, -, kept, -, -, -, -, hKept, -⟩
        cases hCache.symm.trans hKept
    | some kept =>
        have hFits := hSound.fits hSource hStore hCache
        have hOutlives : locator.Outlives requested ↔ store.poisoned = true ∧
            (kept.get Cluster.cacheTime ⟨store.generation, requested⟩).1.isSome = true := by
          constructor
          · rintro ⟨place, found, held, -, hPlace, hFound, hPoisoned, hHeld, hHit⟩
            cases hPlace.symm.trans hSource
            cases hFound.symm.trans hStore
            cases hHeld.symm.trans hCache
            exact ⟨hPoisoned, hHit⟩
          · rintro ⟨hPoisoned, hHit⟩
            exact ⟨index, store, kept, hStatus, hSource, hStore, hPoisoned, hCache, hHit⟩
        rw [hOutlives, Source.outcome_answer_some, Source.outcome_answer_none hKeyed]
        simp only [Source.generation]
        cases hHit : (kept.get Cluster.cacheTime ⟨store.generation, requested⟩).1 with
        | none => simp
        | some snapshot =>
            cases hPoisoned : store.poisoned with
            | true => simp
            | false => simp [Cache.get_of_fits hFits hPoisoned hHit]

/-- A request leaves a sound locator sound. -/
theorem Sound.keep (hSound : Sound edits locator) (useCache : Bool) (requested : NameSet) :
    Sound edits (locator.keep useCache requested) := by
  cases useCache with
  | false => exact hSound
  | true =>
      refine ⟨hSound.stores, fun later hLater => ?_⟩
      change (locator.answer true requested).cache = some later at hLater
      obtain ⟨⟨outcome, hAnswer⟩, -⟩ | ⟨index, store, -, hSource, hStore, hKeyed, hAnswer⟩ :=
        answer_cases hSound requested
      · rw [hAnswer] at hLater
        exact hSound.kept later hLater
      · rw [hAnswer] at hLater
        simp only [if_true] at hLater
        intro entry hEntry
        refine ⟨index, store, published_of_running hSource, hStore, ?_⟩
        cases hCache : locator.cache with
        | none =>
            rw [hCache] at hLater
            unfold Source.answer at hLater
            simp only at hLater
            split at hLater <;> cases hLater
        | some kept =>
            rw [hCache] at hLater
            exact Source.fits_answer hKeyed (hSound.fits hSource hStore hCache) hLater entry hEntry

/-- What is kept stays in place as long as the published source does. -/
theorem Sound.of_service (hSound : Sound edits locator) {service : Service Nat}
    (hPublished : locator.service.published = none ∨
      service.published = locator.service.published) :
    Sound edits { locator with service } := by
  refine ⟨hSound.stores, fun kept hKept entry hEntry => ?_⟩
  obtain ⟨index, store, hIndex, hStore, hFits⟩ := hSound.kept kept hKept entry hEntry
  rcases hPublished with hNone | hSame
  · cases hNone.symm.trans hIndex
  · exact ⟨index, store, hSame.trans hIndex, hStore, hFits⟩

end Locator

/-! ### Runs -/

namespace Cluster

/-- What is done with the configuration at a site. -/
inductive Call where
  | edit (source : Nat) (operation : Store.Operation)
  | publish (source : Nat)
  | stop
  | handle (useCache : Bool) (requested : NameSet)

def Call.isEdit : Call → Bool
  | edit .. => true
  | _ => false

/-- A source that is refused stays unpublished. -/
def call (site : Nat) (cluster : Cluster) : Call → Cluster
  | .edit index operation =>
    match cluster.sources[index]?.map (·.source) with
    | some (Source.store store) => cluster.setSource index (.store (store.perform operation).2)
    | _ => cluster
  | .publish index =>
    match cluster.sites[site]?.bind fun found => found.service.publish index with
    | some service => cluster.modifySite site fun found => { found with service }
    | none => cluster
  | .stop => cluster.modifySite site fun found => { found with service := found.service.stop }
  | .handle useCache requested => (cluster.handle site useCache requested).2

def calls (site : Nat) (cluster : Cluster) (calls : List Call) : Cluster :=
  calls.foldl (call site) cluster

/-- One member with its settings, and stores that hold some groups each. -/
def ofStores (self : Member) (settings : Settings) (configurations : List (List Group)) :
    Cluster where
  sites := [.ofSettings self settings]
  sources := configurations.map fun groups => { source := .store (.ofGroups groups) }

variable {cluster : Cluster} {site : Nat} {locator : Locator} {edits : Nat}

theorem find_of_locator? (hLocator : cluster.locator? site = some locator) (index : Nat) :
    locator.find index = cluster.sources[index]?.map (·.source) := by
  obtain ⟨found, -, rfl⟩ := Option.map_eq_some_iff.1 hLocator
  simp [Locator.find]

/-- Another service at a site is that of its locator. -/
theorem locator?_modifySite (hLocator : cluster.locator? site = some locator)
    (change : Service Nat → Service Nat) :
    (cluster.modifySite site fun found => { found with service := change found.service }).locator?
      site = some { locator with service := change locator.service } := by
  obtain ⟨found, hFound, rfl⟩ := Option.map_eq_some_iff.1 hLocator
  simp [locator?, modifySite, hFound]

theorem sound_edit (hLocator : cluster.locator? site = some locator)
    (hSound : locator.Sound edits) (hRoom : edits + 1 < UInt64.size) (index : Nat)
    (operation : Store.Operation) :
    ∃ next, (cluster.call site (.edit index operation)).locator? site = some next ∧
      next.Sound (edits + 1) := by
  have hWeaker : locator.Sound (edits + 1) :=
    ⟨fun place source hSource => by
      obtain ⟨store, hStore, hKeyed, hEdits⟩ := hSound.stores place source hSource
      exact ⟨store, hStore, hKeyed, by omega⟩, hSound.kept⟩
  cases hSource : cluster.sources[index]?.map (·.source) with
  | none =>
      have hCall : cluster.call site (.edit index operation) = cluster := by
        simp only [call, hSource]
      exact ⟨locator, hCall.symm ▸ hLocator, hWeaker⟩
  | some source =>
      cases source with
      | scripted generation snapshot failure =>
          have hCall : cluster.call site (.edit index operation) = cluster := by
            simp only [call, hSource]
          exact ⟨locator, hCall.symm ▸ hLocator, hWeaker⟩
      | store store =>
          have hCall : cluster.call site (.edit index operation) =
              cluster.setSource index (.store (store.perform operation).2) := by
            simp only [call, hSource]
          rw [hCall]
          have hFind := find_of_locator? hLocator
          obtain ⟨other, hOther, hKeyed, hEdits⟩ :=
            hSound.stores index _ ((hFind index).trans hSource)
          cases hOther
          obtain ⟨found, hFound, rfl⟩ := Option.map_eq_some_iff.1 hLocator
          let next : Locator := ⟨found.service, found.cache,
            (cluster.setSource index (.store (store.perform operation).2)).sources.map (·.source)⟩
          have hNext : ∀ place, next.find place = if place = index then
              some (.store (store.perform operation).2) else
              Locator.find ⟨found.service, found.cache, cluster.sources.map (·.source)⟩ place := by
            intro place
            rw [hFind]
            simp only [next, Locator.find, setSource, List.getElem?_map, List.getElem?_modify]
            by_cases hPlace : place = index
            · obtain ⟨record, hRecord, -⟩ := Option.map_eq_some_iff.1 hSource
              simp [hPlace, hRecord]
            · simp [hPlace, Ne.symm hPlace]
          refine ⟨next, by simp [locator?, next, hFound, setSource], ?_, ?_⟩
          · intro place source hPlace
            rw [hNext] at hPlace
            split at hPlace
            · cases hPlace
              refine ⟨_, rfl, Store.keyed_perform hKeyed operation, ?_⟩
              have hLe := store.toNat_generation_perform operation
              omega
            · exact hWeaker.stores place source hPlace
          · intro kept hKept entry hEntry
            obtain ⟨place, held, hPublished, hHeld, hFits⟩ := hSound.kept kept hKept entry hEntry
            by_cases hPlace : place = index
            · subst hPlace
              cases hHeld.symm.trans ((hFind place).trans hSource)
              exact ⟨place, _, hPublished, by rw [hNext, if_pos rfl],
                hFits.perform operation (by omega)⟩
            · exact ⟨place, held, hPublished, by rw [hNext, if_neg hPlace, hHeld], hFits⟩

theorem sound_call (hLocator : cluster.locator? site = some locator)
    (hSound : locator.Sound edits) (call : Call)
    (hRoom : edits + (if call.isEdit then 1 else 0) < UInt64.size) :
    ∃ next, (cluster.call site call).locator? site = some next ∧
      next.Sound (edits + if call.isEdit then 1 else 0) := by
  cases call with
  | edit index operation => exact sound_edit hLocator hSound hRoom index operation
  | publish index =>
      cases hService : cluster.sites[site]?.bind fun found => found.service.publish index with
      | none =>
          have hCall : cluster.call site (.publish index) = cluster := by
            simp only [Cluster.call, hService]
          exact ⟨locator, hCall.symm ▸ hLocator, hSound⟩
      | some service =>
          have hCall : cluster.call site (.publish index) =
              cluster.modifySite site fun found => { found with service } := by
            simp only [Cluster.call, hService]
          refine ⟨_, hCall.symm ▸ locator?_modifySite hLocator fun _ => service,
            hSound.of_service (.inl ?_)⟩
          obtain ⟨found, hFound, hPublish⟩ := Option.bind_eq_some_iff.1 hService
          rw [locator?_of_site hFound] at hLocator
          cases hLocator
          unfold Service.publish at hPublish
          split at hPublish
          · next hOpen => simpa using hOpen.2.2
          · cases hPublish
  | stop =>
      refine ⟨_, locator?_modifySite hLocator Service.stop, hSound.of_service (.inr ?_)⟩
      unfold Service.stop
      split <;> rfl
  | handle useCache requested =>
      obtain ⟨found, hFound, -⟩ := Option.map_eq_some_iff.1 hLocator
      exact ⟨_, locator?_handle hFound hLocator useCache requested, hSound.keep useCache requested⟩

theorem sound_calls (hLocator : cluster.locator? site = some locator)
    (hSound : locator.Sound edits) (done : List Call)
    (hRoom : edits + done.countP Call.isEdit < UInt64.size) :
    ∃ next, (cluster.calls site done).locator? site = some next ∧
      next.Sound (edits + done.countP Call.isEdit) := by
  induction done generalizing cluster locator edits with
  | nil => exact ⟨locator, hLocator, hSound⟩
  | cons first rest ih =>
      rw [List.countP_cons] at hRoom ⊢
      obtain ⟨next, hNext, hSoundNext⟩ := sound_call hLocator hSound first (by omega)
      have hRest := ih hNext hSoundNext (by omega)
      rwa [Nat.add_right_comm, Nat.add_assoc] at hRest

theorem sound_ofStores (self : Member) (settings : Settings) (configurations : List (List Group)) :
    ∃ locator, (ofStores self settings configurations).locator? 0 = some locator ∧
      locator.Sound 0 := by
  refine ⟨_, rfl, ?_, ?_⟩
  · intro index source hSource
    simp only [Locator.find, ofStores, List.getElem?_map, Option.map_map] at hSource
    obtain ⟨groups, -, rfl⟩ := Option.map_eq_some_iff.1 hSource
    exact ⟨.ofGroups groups, rfl, GroupMap.keyed_ofGroups groups, Nat.le_refl 0⟩
  · intro kept hKept entry hEntry
    unfold Site.ofSettings at hKept
    simp only at hKept
    split at hKept
    · cases hKept
    · cases hKept
      cases hEntry

/-- After any edits, transitions of the service and requests, a request to a site with a cache is
answered as it would be without one, except where an edit of the published store broke off and an
answer of its last generation is still kept. There the source itself only fails, and the cache hands
out a snapshot. -/
theorem handle_ne_iff (self : Member) (settings : Settings) (configurations : List (List Group))
    (done : List Call) (hEdits : done.countP Call.isEdit < UInt64.size) (requested : NameSet) :
    let cluster := (ofStores self settings configurations).calls 0 done
    let cached := (cluster.handle 0 true requested).1
    let plain := (cluster.handle 0 false requested).1
    (cached ≠ plain ↔ ∃ locator, cluster.locator? 0 = some locator ∧ locator.Outlives requested) ∧
      (cached ≠ plain → plain = .failed SourceError.poisoned.message ∧
        ∃ snapshot, cached = .ready snapshot) := by
  intro cluster cached plain
  obtain ⟨start, hStart, hSoundStart⟩ := sound_ofStores self settings configurations
  obtain ⟨locator, hLocator, hSound⟩ := sound_calls hStart hSoundStart done (by omega)
  obtain ⟨found, hFound, -⟩ := Option.map_eq_some_iff.1 hLocator
  have hCached : cached = (locator.answer true requested).outcome :=
    (handle_eq hFound hLocator true requested).1
  have hPlain : plain = (locator.answer false requested).outcome :=
    (handle_eq hFound hLocator false requested).1
  have hOnly : (∃ other, cluster.locator? 0 = some other ∧ other.Outlives requested) ↔
      locator.Outlives requested := by
    constructor
    · rintro ⟨other, hOther, hOutlives⟩
      cases hOther.symm.trans hLocator
      exact hOutlives
    · intro hOutlives
      exact ⟨locator, hLocator, hOutlives⟩
  rw [hCached, hPlain, hOnly]
  exact hSound.answer_ne_iff requested

/-- A completed edit is seen at once, although the answer before it is kept. -/
theorem handle_eq_after_completed_edit :
    let self : Member := ⟨.v4 #v[10, 0, 0, 7] 10334, 3⟩
    let requested : NameSet := NameMap.insert ∅ "web" ()
    let done := [Call.publish 0, .handle true requested, .edit 0 (.put { name := "web" })]
    let cluster := (ofStores self {} [[]]).calls 0 done
    done.countP Call.isEdit < UInt64.size ∧
      (cluster.handle 0 true requested).1 = (cluster.handle 0 false requested).1 := by
  intro self requested done cluster
  have hEdits : done.countP Call.isEdit < UInt64.size := by decide
  refine ⟨hEdits, Decidable.byContradiction fun hNe => ?_⟩
  obtain ⟨locator, hLocator, index, store, kept, -, hSource, hStore, hPoisoned, -⟩ :=
    (handle_ne_iff self {} [[]] done hEdits requested).1.1 hNe
  cases hLocator
  cases hSource
  cases hStore
  cases hPoisoned

/-- Of an edit that broke off, the cache shows nothing, where the source itself only fails. -/
theorem handle_ne_after_broken_edit :
    let self : Member := ⟨.v4 #v[10, 0, 0, 7] 10334, 3⟩
    let requested : NameSet := NameMap.insert ∅ "web" ()
    let done := [Call.publish 0, .handle true requested, .edit 0 (.update "web" [.fail])]
    let cluster := (ofStores self {} [[]]).calls 0 done
    (cluster.handle 0 true requested).1 ≠ (cluster.handle 0 false requested).1 := by
  intro self requested done cluster hSame
  have hCached : ∃ snapshot, (cluster.handle 0 true requested).1 = .ready snapshot := ⟨_, rfl⟩
  have hPlain : (cluster.handle 0 false requested).1 = .failed SourceError.poisoned.message := rfl
  obtain ⟨snapshot, hReady⟩ := hCached
  cases (hReady.symm.trans hSame).trans hPlain

end Cluster

end ConfigExchange
