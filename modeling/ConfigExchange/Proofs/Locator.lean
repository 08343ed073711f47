import ConfigExchange.Cluster
import ConfigExchange.Proofs.Store

/-! Sites that hand out configuration. What a site answers depends on its service, on its cache and
on the sources, and on nothing else in the cluster; an answer changes nothing but the cache and the
count of snapshots. -/
namespace ConfigExchange

/-- What a site answers requests for configuration from. -/
structure Locator where
  service : Service Nat
  cache : Option Cache
  sources : List Source

namespace Locator

def find (locator : Locator) (index : Nat) : Option Source := locator.sources[index]?

def answer (locator : Locator) (useCache : Bool) (requested : NameSet) : Handled :=
  locator.service.handle locator.find (if useCache then locator.cache else none) Cluster.cacheTime
    requested

/-- The locator after it has answered a request. -/
def keep (locator : Locator) (useCache : Bool) (requested : NameSet) : Locator :=
  if useCache then { locator with cache := (locator.answer true requested).cache } else locator

end Locator

namespace Cluster

variable {cluster : Cluster} {site : Nat} {found : Site}

/-- A site as a locator. -/
def locator? (cluster : Cluster) (site : Nat) : Option Locator :=
  cluster.sites[site]?.map fun found =>
    ⟨found.service, found.cache, cluster.sources.map (·.source)⟩

theorem locator?_of_site (hSite : cluster.sites[site]? = some found) :
    cluster.locator? site = some ⟨found.service, found.cache, cluster.sources.map (·.source)⟩ := by
  simp [locator?, hSite]

/-- What a request leaves alone: all but the cache of the site and the counts of snapshots. -/
structure Handles (before after : Cluster) (site : Nat) (found : Site) (cache : Option Cache) :
    Prop where
  connections : after.connections = before.connections
  channels : after.channels = before.channels
  sessions : after.sessions = before.sessions
  here : after.sites[site]? = some { found with cache }
  elsewhere : ∀ other, other ≠ site → after.sites[other]? = before.sites[other]?
  sources : after.sources.map (·.source) = before.sources.map (·.source)

theorem map_source_count (sources : List SourceRecord) (index : Nat) :
    (sources.modify index fun record =>
      { record with snapshotsTaken := record.snapshotsTaken + 1 }).map (·.source) =
      sources.map (·.source) := by
  apply List.ext_getElem?
  intro place
  simp only [List.getElem?_map, List.getElem?_modify]
  split <;> cases sources[place]? <;> rfl

/-- A site answers as the locator it is, and is then the locator that this leaves. -/
theorem handle_eq (hSite : cluster.sites[site]? = some found) {locator : Locator}
    (hLocator : cluster.locator? site = some locator) (useCache : Bool) (requested : NameSet) :
    (cluster.handle site useCache requested).1 = (locator.answer useCache requested).outcome ∧
      Handles cluster (cluster.handle site useCache requested).2 site found
        (locator.keep useCache requested).cache := by
  have hFind : (fun index => cluster.sources[index]?.map (·.source)) = locator.find := by
    rw [locator?_of_site hSite] at hLocator
    cases hLocator
    funext index
    simp [Locator.find]
  rw [locator?_of_site hSite] at hLocator
  cases hLocator
  simp only [handle, hSite, hFind]
  refine ⟨rfl, ?_⟩
  have hIndex := (List.getElem?_eq_some_iff.1 hSite).1
  -- Only a snapshot that was taken is counted, and the count does not show in the source.
  split
  all_goals
    cases useCache
    · refine ⟨rfl, rfl, rfl, ?_, fun _ _ => rfl, ?_⟩
      · simp [Locator.keep, hSite]
      · simp [map_source_count]
    · refine ⟨rfl, rfl, rfl, ?_, fun other hOther => ?_, ?_⟩
      · simp [Locator.keep, Locator.answer, modifySite, hSite]
      · simp [modifySite, List.getElem?_modify_ne _ _ (Ne.symm hOther)]
      · simp [modifySite, map_source_count]

theorem locator?_handle (hSite : cluster.sites[site]? = some found) {locator : Locator}
    (hLocator : cluster.locator? site = some locator) (useCache : Bool) (requested : NameSet) :
    (cluster.handle site useCache requested).2.locator? site =
      some (locator.keep useCache requested) := by
  obtain ⟨-, hHandles⟩ := handle_eq hSite hLocator useCache requested
  rw [locator?_of_site hHandles.here, hHandles.sources]
  rw [locator?_of_site hSite] at hLocator
  cases hLocator
  cases useCache <;> rfl

/-- Clusters with the same locator answer alike. -/
theorem handle_congr {other : Cluster} (hSame : other.locator? site = cluster.locator? site)
    (useCache : Bool) (requested : NameSet) :
    (other.handle site useCache requested).1 = (cluster.handle site useCache requested).1 ∧
      (other.handle site useCache requested).2.locator? site =
        (cluster.handle site useCache requested).2.locator? site := by
  cases hSite : cluster.sites[site]? with
  | none =>
      have hNone : cluster.locator? site = none := by simp [locator?, hSite]
      have hOther : other.sites[site]? = none := by
        rw [hNone] at hSame
        exact Option.map_eq_none_iff.1 hSame
      simp [handle, hSite, hOther, locator?]
  | some found =>
      have hLocator := locator?_of_site hSite
      rw [hLocator] at hSame
      obtain ⟨foundOther, hOther, -⟩ := Option.map_eq_some_iff.1 hSame
      rw [(handle_eq hOther hSame useCache requested).1,
        (handle_eq hSite hLocator useCache requested).1,
        locator?_handle hOther hSame, locator?_handle hSite hLocator]
      exact ⟨rfl, rfl⟩

end Cluster

/-! ### Snapshots that are handed out -/

/-- Whatever a cache keeps is a snapshot that comes about. -/
def Cache.Sane (cache : Option Cache) : Prop :=
  ∀ kept, cache = some kept → ∀ entry ∈ kept.entries, GroupMap.Keyed entry.snapshot.groups

theorem Cache.sane_insert {cache : Option Cache} (hSane : Sane cache) (now : Micros)
    (requested : NameSet) (snapshot : Snapshot) :
    Sane (cache.map fun kept => kept.insert now requested (snapshot.restrict requested)) := by
  intro final hFinal entry hEntry
  obtain ⟨kept, hKept, rfl⟩ := Option.map_eq_some_iff.1 hFinal
  rcases mem_of_mem_insert hEntry with rfl | hOld
  · exact GroupMap.keyed_ofGroups _
  · exact hSane kept hKept entry hOld

theorem Cache.sane_get {cache : Cache} (hSane : Sane (some cache)) (now : Micros) (key : CacheKey) :
    Sane (some (cache.get now key).2) := by
  intro kept hKept entry hEntry
  cases hKept
  exact hSane cache rfl entry (mem_of_mem_get hEntry)

/-- A new snapshot is handed out cut down to the request, and kept so. -/
theorem Source.sane_taken (source : Source) {cache : Option Cache} (hSane : Cache.Sane cache)
    (now : Micros) (requested : NameSet) (handled : Handled)
    (hHandled : handled = match source.snapshot with
      | .error error => ⟨.failed error.message, cache, true⟩
      | .ok snapshot => ⟨.ready (snapshot.restrict requested),
          cache.map fun kept => kept.insert now requested (snapshot.restrict requested), true⟩) :
    Cache.Sane handled.cache ∧
      ∀ snapshot, handled.outcome = .ready snapshot → GroupMap.Keyed snapshot.groups := by
  subst hHandled
  cases source.snapshot with
  | error error =>
      refine ⟨hSane, fun snapshot hReady => ?_⟩
      cases hReady
  | ok whole =>
      refine ⟨Cache.sane_insert hSane now requested whole, fun snapshot hReady => ?_⟩
      cases hReady
      exact GroupMap.keyed_ofGroups _

theorem Source.sane_answer (source : Source) {cache : Option Cache} (hSane : Cache.Sane cache)
    (now : Micros) (requested : NameSet) :
    Cache.Sane (source.answer cache now requested).cache ∧
      ∀ snapshot, (source.answer cache now requested).outcome = .ready snapshot →
        GroupMap.Keyed snapshot.groups := by
  cases cache with
  | none => exact source.sane_taken hSane now requested _ rfl
  | some kept =>
      have hLeft := Cache.sane_get hSane now ⟨source.generation, requested⟩
      unfold answer
      simp only
      cases hGet : kept.get now ⟨source.generation, requested⟩ with
      | mk hit left =>
          rw [hGet] at hLeft
          cases hit with
          | none => exact source.sane_taken hLeft now requested _ rfl
          | some snapshot =>
              refine ⟨hLeft, fun other hOther => ?_⟩
              cases hOther
              obtain ⟨entry, hEntry, -, rfl⟩ := Cache.mem_of_get (by rw [hGet])
              exact hSane kept rfl entry hEntry

/-- So does the service, whether or not it runs. -/
theorem Locator.sane_answer {locator : Locator} (hSane : Cache.Sane locator.cache)
    (requested : NameSet) :
    Cache.Sane (locator.answer true requested).cache ∧
      ∀ snapshot, (locator.answer true requested).outcome = .ready snapshot →
        GroupMap.Keyed snapshot.groups := by
  unfold answer Service.handle
  simp only [if_true]
  cases locator.service.status with
  | disabled | starting | stopped =>
      refine ⟨hSane, fun snapshot hReady => ?_⟩
      cases hReady
  | running =>
      simp only
      cases locator.service.runningSource.bind locator.find with
      | none =>
          refine ⟨hSane, fun snapshot hReady => ?_⟩
          cases hReady
      | some source => exact source.sane_answer hSane _ requested

end ConfigExchange
