import ConfigExchange.Proofs.Cluster.Claims
import ConfigExchange.Proofs.Cluster.Trace

/-! What is done in a cluster. Connections and pools are used, sites are told to cancel, to stop and
to answer, and the world around them goes on. Each deed is made of events, so what holds along every
run holds for deeds too; but unlike events deeds change a site only as its member can. -/
namespace ConfigExchange

/-- What a site may be told. -/
inductive Order where
  | cancel (reason : String)
  | shutdown (reason : String)
  | closePool
  | stopService
  | publish (source : Nat)

namespace Order

/-- The reason for cancellation that is given with an order. -/
def reason? : Order → Option String
  | cancel reason | shutdown reason => some reason
  | _ => none

end Order

/-- What a site makes of an order. A source that is refused changes nothing. -/
def Site.obey (site : Site) : Order → Site
  | .cancel reason => site.cancel reason
  | .shutdown reason => site.shutdown reason
  | .closePool => { site with pool := site.pool.close }
  | .stopService => { site with service := site.service.stop }
  | .publish source => { site with service := (site.service.publish source).getD site.service }

/-- What is done in a cluster. -/
inductive Deed where
  /-- A connection or a pool is used. -/
  | use (event : Cluster.Event)
  | tell (site : Nat) (order : Order)
  /-- A site is asked for the configuration of some groups. -/
  | ask (site : Nat) (useCache : Bool) (requested : NameSet)
  /-- Time passes, sources change, and channels are read or given up. -/
  | around (now : Micros) (sources : List SourceRecord) (channels : Channels)

namespace Deed

/-- The session that goes on in a deed. -/
def subject? : Deed → Option SessionId
  | use event => event.subject?
  | _ => none

/-- The events that a deed is made of. Nobody uses what is not there. -/
def events (cluster : Cluster) : Deed → List Cluster.Event
  | use event => if event.isUse cluster then [event] else []
  | tell site order =>
    let sites := cluster.sites.modify site (·.obey order)
    [.elsewhere cluster.now sites cluster.sources cluster.channels cluster.alarms]
  | ask site useCache requested =>
    let later := (cluster.handle site useCache requested).2
    [.elsewhere cluster.now later.sites later.sources cluster.channels cluster.alarms]
  | around now sources channels =>
    [.elsewhere now cluster.sites sources channels cluster.alarms]

end Deed

namespace Cluster

/-- The members' sites, at which nothing has happened yet. -/
def ofMembers (members : List (Member × Settings)) : Cluster where
  sites := members.map fun member => .ofSettings member.1 member.2

def enact (cluster : Cluster) (deed : Deed) : Cluster := cluster.run (deed.events cluster)

def enactAll (cluster : Cluster) (deeds : List Deed) : Cluster := deeds.foldl enact cluster

/-- The events that deeds are made of. -/
def course : Cluster → List Deed → List Event
  | _, [] => []
  | cluster, deed :: rest => deed.events cluster ++ course (cluster.enact deed) rest

/-- The reasons for cancellation that were given to a site, the first in front. -/
def reasons (site : Nat) (deeds : List Deed) : List String :=
  deeds.filterMap fun
    | .tell place order => if place = site then order.reason? else none
    | _ => none

variable {cluster : Cluster} {site : Nat} {found : Site}

theorem run_course (cluster : Cluster) (deeds : List Deed) :
    cluster.run (cluster.course deeds) = cluster.enactAll deeds := by
  induction deeds generalizing cluster with
  | nil => rfl
  | cons deed rest ih =>
      rw [course, run_append]
      exact ih (cluster.enact deed)

theorem enactAll_append (cluster : Cluster) (first second : List Deed) :
    cluster.enactAll (first ++ second) = (cluster.enactAll first).enactAll second :=
  List.foldl_append

theorem enactAll_concat (cluster : Cluster) (deeds : List Deed) (deed : Deed) :
    cluster.enactAll (deeds ++ [deed]) = (cluster.enactAll deeds).enact deed :=
  enactAll_append ..

/-- The answer of a site changes nothing of the sites but the cache of one. -/
theorem sites_handle (useCache : Bool) (requested : NameSet)
    (hFound : cluster.sites[site]? = some found) (place : Nat) :
    ∃ cache, (cluster.handle place useCache requested).2.sites[site]? =
      some { found with cache } := by
  have hCounted : (cluster.handle place useCache requested).2.sites = cluster.sites ∨
      ∃ cache, (cluster.handle place useCache requested).2.sites =
        cluster.sites.modify place fun other => { other with cache } := by
    unfold handle
    split
    · exact .inl rfl
    · simp only
      cases useCache <;> split <;> first | exact .inl rfl | exact .inr ⟨_, rfl⟩
  rcases hCounted with hSame | ⟨cache, hModify⟩
  · exact ⟨found.cache, hSame ▸ hFound⟩
  · rw [hModify]
    by_cases hPlace : place = site
    · subst hPlace
      exact ⟨cache, by rw [List.getElem?_modify_eq, hFound]; rfl⟩
    · exact ⟨found.cache, by rw [List.getElem?_modify_ne _ _ hPlace, hFound]⟩

/-! ### What a deed does to a site -/

/-- What a site is like after a deed, but for its pool and its cache. -/
def heeding (site : Nat) (found : Site) : Deed → Site
  | .tell place order => if place = site then found.obey order else found
  | _ => found

theorem pool_obey (site : Site) (order : Order) :
    (site.obey order).pool = site.pool ∨ (site.obey order).pool = site.pool.close := by
  cases order with
  | shutdown | closePool => exact .inr rfl
  | cancel | stopService | publish => exact .inl rfl

/-- Every deed is a turn on the pool of a site, and changes the site as it is told. -/
theorem poolTurn_enact (hPlaced : cluster.Placed) (hFound : cluster.sites[site]? = some found)
    (deed : Deed) :
    ∃ pool cache, (cluster.enact deed).sites[site]? =
        some { heeding site found deed with pool, cache } ∧
      PoolTurn (cluster.claims site) found.pool ((cluster.enact deed).claims site) pool := by
  cases deed with
  | use event =>
      by_cases hUse : event.isUse cluster = true
      · obtain ⟨pool, hNext, hTurn⟩ := poolTurn_perform hPlaced hUse hFound
        have hEnact : cluster.enact (.use event) = cluster.perform event := by
          simp [enact, Deed.events, hUse, run]
        exact ⟨pool, found.cache, hEnact ▸ hNext, hEnact ▸ hTurn⟩
      · have hEnact : cluster.enact (.use event) = cluster := by
          simp [enact, Deed.events, hUse, run]
        exact ⟨found.pool, found.cache, hEnact.symm ▸ hFound, hEnact.symm ▸ .still⟩
  | tell place order =>
      have hSites : (cluster.enact (.tell place order)).sites =
        cluster.sites.modify place (·.obey order) := rfl
      rw [hSites]
      by_cases hPlace : place = site
      · subst hPlace
        refine ⟨(found.obey order).pool, (found.obey order).cache, ?_, ?_⟩
        · rw [List.getElem?_modify_eq, hFound, heeding, if_pos rfl]
          rfl
        · rcases pool_obey found order with hSame | hClosed
          · rw [hSame]
            exact .still
          · rw [hClosed]
            exact .closes
      · refine ⟨found.pool, found.cache, ?_, .still⟩
        rw [List.getElem?_modify_ne _ _ hPlace, hFound, heeding, if_neg hPlace]
  | ask place useCache requested =>
      obtain ⟨cache, hNext⟩ := sites_handle useCache requested hFound place
      exact ⟨found.pool, cache, hNext, .still⟩
  | around now sources channels => exact ⟨found.pool, found.cache, hFound, .still⟩

theorem Placed.enact (hPlaced : cluster.Placed) (deed : Deed) : (cluster.enact deed).Placed := by
  cases deed with
  | use event =>
      by_cases hUse : event.isUse cluster = true
      · have hEnact : cluster.enact (.use event) = cluster.perform event := by
          simp [Cluster.enact, Deed.events, hUse, run]
        rw [hEnact]
        exact hPlaced.perform hUse
      · have hEnact : cluster.enact (.use event) = cluster := by
          simp [Cluster.enact, Deed.events, hUse, run]
        rwa [hEnact]
  | _ =>
      intro session hSession
      obtain ⟨site, found, hHome, hFound⟩ := hPlaced session hSession
      obtain ⟨pool, cache, hNext, -⟩ := poolTurn_enact hPlaced hFound _
      exact ⟨site, _, hHome, hNext⟩

theorem Placed.enactAll (hPlaced : cluster.Placed) (deeds : List Deed) :
    (cluster.enactAll deeds).Placed := by
  induction deeds generalizing cluster with
  | nil => exact hPlaced
  | cons deed rest ih => exact ih (hPlaced.enact deed)

theorem placed_ofMembers (members : List (Member × Settings)) : (ofMembers members).Placed := nofun

theorem site_ofMembers {members : List (Member × Settings)} {member : Member × Settings}
    (hMember : members[site]? = some member) :
    (ofMembers members).sites[site]? = some (.ofSettings member.1 member.2) := by
  rw [ofMembers, List.getElem?_map, hMember]
  rfl

end Cluster

end ConfigExchange
