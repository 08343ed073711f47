import ConfigExchange.Proofs.Cluster.Run
import Mathlib.Data.List.Basic

/-! What sessions have of the pool of their site. Seen from one pool, every use of a connection or
of the pool is a turn of one session, or leaves the pool alone. -/
namespace ConfigExchange

/-- What a session has of a pool. -/
inductive Claim where
  /-- It has asked for a buffer. -/
  | waits
  | has (buffer : Buffer)

/-- Whether it is a buffer. -/
def Claim.isBuffer : Claim → Bool
  | has _ => true
  | waits => false

def WriterStage.claim? : WriterStage → Option Claim
  | awaiting .. => some .waits
  | opened buffer | sending buffer _ => some (.has buffer)
  | _ => none

def LoanStage.claim? : LoanStage → Option Claim
  | awaiting .. => some .waits
  | lent buffer => some (.has buffer)
  | _ => none

def Session.claim? : Session → Option Claim
  | writer _ stage => stage.claim?
  | closing .. => none
  | loan _ stage => stage.claim?

/-- What becomes of a pool, and of what a session has of it. -/
inductive ClaimTurn (id : SessionId) (pool : Pool) : Option Claim → Pool → Option Claim → Prop where
  | rests (claim : Option Claim) : ClaimTurn id pool claim pool claim
  | asks : ClaimTurn id pool none (pool.request id) (some .waits)
  /-- It is given an empty buffer. -/
  | collects {capacity : Nat} {next : Pool}
      (hCollect : pool.collect id = (.buffer { capacity }, next)) :
      ClaimTurn id pool (some .waits) next (some (.has { capacity }))
  | withdraws : ClaimTurn id pool (some .waits) (pool.withdraw id) none
  | fills (buffer : Buffer) (pieces : List Bytes) :
      ClaimTurn id pool (some (.has buffer)) pool (some (.has (buffer.appendAll pieces)))
  | returns (buffer : Buffer) :
      ClaimTurn id pool (some (.has buffer)) (pool.giveBack buffer) none

/-- What becomes of a pool, and of what every session has of it. -/
inductive PoolTurn (claims : List (Option Claim)) (pool : Pool) :
    List (Option Claim) → Pool → Prop where
  | still : PoolTurn claims pool claims pool
  /-- A session comes in. -/
  | begins : PoolTurn claims pool (claims ++ [none]) pool
  | turns (id : SessionId) {claim last : Option Claim} {next : Pool}
      (hClaim : claims[id]? = some claim) (hTurn : ClaimTurn id pool claim next last) :
      PoolTurn claims pool (claims.set id last) next
  | closes : PoolTurn claims pool claims pool.close

namespace Cluster

variable (cluster : Cluster)

/-- The site whose pool a session uses. -/
def siteOf? : Session → Option Nat
  | .writer index _ | .closing index _ => cluster.connections[index]?.map (·.site)
  | .loan site _ => some site

/-- What a session has of the pool of a site. -/
def claimOn (site : Nat) (session : Session) : Option Claim :=
  if cluster.siteOf? session = some site then session.claim? else none

/-- What the sessions have of the pool of a site, one after the other. -/
def claims (site : Nat) : List (Option Claim) := cluster.sessions.map (cluster.claimOn site)

/-- All sessions are at sites that are there. -/
def Placed : Prop :=
  ∀ session ∈ cluster.sessions, ∃ site found,
    cluster.siteOf? session = some site ∧ cluster.sites[site]? = some found

/-- Whether an event is the use of a connection or of a pool, at a site that is there. -/
def Event.isUse (cluster : Cluster) : Event → Bool
  | .openWriter index | .close index =>
    ((cluster.siteOf? (.writer index .starting)).bind (cluster.sites[·]?)).isSome
  | .borrow site _ => cluster.sites[site]?.isSome
  | .elsewhere .. => false
  | .connect .. | .step _ | .append .. | .flush _ | .drop _ | .unstall _ => true

theorem siteOf?_modifyConnection (index : Nat) {change : Connection → Connection}
    (hChange : ∀ connection, (change connection).site = connection.site) :
    (cluster.modifyConnection index change).siteOf? = cluster.siteOf? := by
  have hConnections (place : Nat) : (cluster.connections.modify index change)[place]?.map
      (fun connection => connection.site) =
        cluster.connections[place]?.map fun connection => connection.site := by
    by_cases hPlace : place = index
    · subst hPlace
      rw [List.getElem?_modify_eq]
      cases cluster.connections[place]? with
      | none => rfl
      | some connection => exact congrArg some (hChange connection)
    · rw [List.getElem?_modify_ne _ _ (Ne.symm hPlace)]
  funext session
  cases session with
  | writer place stage => exact hConnections place
  | closing place stage => exact hConnections place
  | loan site stage => rfl

/-! ### The sites after a change -/

@[simp] theorem sites_setSession (id : SessionId) (session : Session) :
    (cluster.setSession id session).sites = cluster.sites := rfl

@[simp] theorem sites_setAlarm (span : Micros) :
    (cluster.setAlarm span).2.sites = cluster.sites := rfl

@[simp] theorem sites_modifyLock (index : Nat) (change : Lock → Lock) :
    (cluster.modifyLock index change).sites = cluster.sites := rfl

@[simp] theorem sites_modifyConnection (index : Nat) (change : Connection → Connection) :
    (cluster.modifyConnection index change).sites = cluster.sites := rfl

variable {cluster}

theorem sites_modifySite {site : Nat} {found : Site} (hFound : cluster.sites[site]? = some found)
    (change : Site → Site) :
    (cluster.modifySite site change).sites = cluster.sites.set site (change found) := by
  rw [modifySite, List.modify_eq_set_getElem?, hFound]
  rfl

theorem sites_modifyPool {site : Nat} {found : Site} (hFound : cluster.sites[site]? = some found)
    (change : Pool → Pool) :
    (cluster.modifyPool site change).sites =
      cluster.sites.set site { found with pool := change found.pool } :=
  sites_modifySite hFound _

theorem sites_modifyPoolOf {index : Nat} {connection : Connection} {found : Site}
    (hConnection : cluster.connections[index]? = some connection)
    (hFound : cluster.sites[connection.site]? = some found) (change : Pool → Pool) :
    (cluster.modifyPoolOf index change).sites =
      cluster.sites.set connection.site { found with pool := change found.pool } := by
  unfold modifyPoolOf
  rw [hConnection]
  exact sites_modifyPool hFound change

theorem sites_set_self {site : Nat} {found : Site} (hFound : cluster.sites[site]? = some found) :
    cluster.sites.set site { found with pool := found.pool } = cluster.sites := by
  obtain ⟨hSite, rfl⟩ := List.getElem?_eq_some_iff.1 hFound
  exact List.set_getElem_self hSite

/-- A session that ends gives back what it has of its pool, and no more. -/
theorem sites_giveUp {session : Session} {site : Nat} {found : Site}
    (hSite : cluster.siteOf? session = some site) (hFound : cluster.sites[site]? = some found)
    (id : SessionId) :
    ∃ pool, ClaimTurn id found.pool session.claim? pool none ∧
      (cluster.giveUp id session).sites = cluster.sites.set site { found with pool } := by
  have hSame := (sites_set_self hFound).symm
  cases session with
  | writer index stage =>
      obtain ⟨connection, hConnection, rfl⟩ := Option.map_eq_some_iff.1 hSite
      cases stage with
      | awaiting limit alarm =>
          exact ⟨_, .withdraws, sites_modifyPoolOf hConnection hFound _⟩
      | opened buffer | sending buffer rest =>
          exact ⟨_, .returns buffer, sites_modifyPoolOf hConnection hFound _⟩
      | starting | queued | finished | dropped => exact ⟨_, .rests none, hSame⟩
  | closing index stage => cases stage <;> exact ⟨_, .rests none, hSame⟩
  | loan place stage =>
      cases hSite
      cases stage with
      | awaiting limit alarm => exact ⟨_, .withdraws, sites_modifyPool hFound _⟩
      | lent buffer => exact ⟨_, .returns buffer, sites_modifyPool hFound _⟩
      | starting | failed | dropped => exact ⟨_, .rests none, hSame⟩

/-! ### What a use does to sessions and pools -/

/-- What a use does to all sessions and all sites. -/
inductive Stir (before after : Cluster) : Prop where
  | still (hSessions : after.sessions = before.sessions) (hSites : after.sites = before.sites)
  /-- A session comes in, and has nothing yet. -/
  | begins {session : Session} {site : Nat} {found : Site} (hSession : session.claim? = none)
      (hHome : before.siteOf? session = some site) (hFound : before.sites[site]? = some found)
      (hSessions : after.sessions = before.sessions ++ [session])
      (hSites : after.sites = before.sites)
  | turns (id : SessionId) {old last : Session} {site : Nat} {found : Site} {pool : Pool}
      (hOld : before.sessions[id]? = some old)
      (hSessions : after.sessions = before.sessions.set id last)
      (hStays : ∀ cluster : Cluster, cluster.siteOf? last = cluster.siteOf? old)
      (hHome : before.siteOf? old = some site) (hFound : before.sites[site]? = some found)
      (hTurn : ClaimTurn id found.pool old.claim? pool last.claim?)
      (hSites : after.sites = before.sites.set site { found with pool })

theorem sessions_setSession_of {before later : Cluster}
    (hSessions : later.sessions = before.sessions)
    (id : SessionId) (session : Session) :
    (later.setSession id session).sessions = before.sessions.set id session := by
  rw [sessions_setSession, hSessions]

/-- A session that changes and leaves its pool alone. -/
theorem Stir.of_rests {before after : Cluster} {id : SessionId} {old last : Session} {site : Nat}
    {found : Site} (hOld : before.sessions[id]? = some old)
    (hSessions : after.sessions = before.sessions.set id last)
    (hStays : ∀ cluster : Cluster, cluster.siteOf? last = cluster.siteOf? old)
    (hHome : before.siteOf? old = some site) (hFound : before.sites[site]? = some found)
    (hClaim : last.claim? = old.claim?) (hSites : after.sites = before.sites) :
    Stir before after := by
  have hTurn : ClaimTurn id found.pool old.claim? found.pool last.claim? := by
    rw [hClaim]
    exact .rests _
  exact .turns id hOld hSessions hStays hHome hFound hTurn
    (hSites.trans (sites_set_self hFound).symm)

/-- A change that sites and sessions take no notice of may come first. -/
theorem Stir.of_later {before later after : Cluster} (hHomes : later.siteOf? = before.siteOf?)
    (hSessions : later.sessions = before.sessions) (hSites : later.sites = before.sites)
    (hStir : Stir later after) : Stir before after := by
  cases hStir with
  | still hSame hPlaces => exact .still (hSame.trans hSessions) (hPlaces.trans hSites)
  | begins hSession hHome hFound hMore hPlaces =>
      rw [hHomes] at hHome
      rw [hSites] at hFound
      exact .begins hSession hHome hFound (hSessions ▸ hMore) (hPlaces.trans hSites)
  | turns id hOld hSet hStays hHome hFound hTurn hPlaces =>
      rw [hSessions] at hOld hSet
      rw [hHomes] at hHome
      rw [hSites] at hFound hPlaces
      exact .turns id hOld hSet hStays hHome hFound hTurn hPlaces

section Uses

variable {before after : Cluster} {id : SessionId} {old last : Session} {site index : Nat}
  {found : Site} {connection : Connection}

/-- A session that ends. -/
theorem stir_conclude (hOld : before.sessions[id]? = some old)
    (hStays : ∀ cluster : Cluster, cluster.siteOf? last = cluster.siteOf? old)
    (hHome : before.siteOf? old = some site) (hFound : before.sites[site]? = some found)
    (hLast : last.claim? = none) : Stir before (before.conclude id old last) := by
  obtain ⟨pool, hTurn, hSites⟩ := sites_giveUp hHome hFound id
  exact .turns id hOld (sessions_conclude ..) hStays hHome hFound (hLast ▸ hTurn) hSites

theorem stir_stepWriter {stage : WriterStage}
    (hConnection : before.connections[index]? = some connection)
    (hFound : before.sites[connection.site]? = some found)
    (hOld : before.sessions[id]? = some (.writer index stage))
    (hStep : before.stepWriter id index connection found.pool stage = some after) :
    Stir before after := by
  have hHome : ∀ stage, before.siteOf? (.writer index stage) = some connection.site := by
    intro stage
    rw [siteOf?, hConnection]
    rfl
  have hFail : ∀ error, some (before.conclude id (.writer index stage)
      (.writer index (.finished (.error error)))) = some after → Stir before after := by
    intro error hAfter
    cases hAfter
    exact stir_conclude hOld (fun _ => rfl) (hHome _) hFound rfl
  unfold stepWriter at hStep
  cases stage with
  | starting =>
      simp only at hStep
      split at hStep
      · exact hFail _ hStep
      · cases hStep
        exact .of_rests hOld rfl (fun _ => rfl) (hHome _) hFound rfl rfl
  | queued alarm =>
      simp only at hStep
      split at hStep
      · split at hStep
        · exact hFail _ hStep
        · cases hStep
          have hSessions :=
            sessions_modifyPoolOf (before.setAlarm (alarm.moment - before.now)).2 index
            (·.request id)
          have hSites :=
            @sites_modifyPoolOf (before.setAlarm (alarm.moment - before.now)).2 index _ _
            hConnection hFound (·.request id)
          exact .turns id hOld (sessions_setSession_of hSessions ..) (fun _ => rfl) (hHome _) hFound
            .asks hSites
      · split at hStep
        · exact hFail _ hStep
        · cases hStep
  | awaiting limit alarm =>
      simp only at hStep
      split at hStep
      · next buffer next hCollect =>
        cases hStep
        obtain ⟨capacity, rfl⟩ := Pool.collect_buffer hCollect
        have hSessions := sessions_modifyPoolOf before index fun _ => next
        exact .turns id hOld (sessions_setSession_of hSessions ..) (fun _ => rfl) (hHome _) hFound
          (.collects hCollect) (sites_modifyPoolOf hConnection hFound fun _ => next)
      · exact hFail _ hStep
      · split at hStep
        · exact hFail _ hStep
        · cases hStep
  | sending buffer rest =>
      simp only at hStep
      split at hStep
      · cases hStep
      · next answer outlet channels hPending hCall =>
        have hHomes : (({ before with channels } : Cluster).modifyConnection index
            fun connection => { connection with outlet }).siteOf? = before.siteOf? :=
          siteOf?_modifyConnection _ index fun _ => rfl
        refine .of_later hHomes rfl rfl ?_
        have hLater := (congrFun hHomes _).trans (hHome (.sending buffer rest))
        split at hStep
        · cases hStep
          exact .of_rests hOld rfl (fun _ => rfl) hLater hFound rfl rfl
        · cases hStep
          exact stir_conclude hOld (fun _ => rfl) hLater hFound rfl
        · cases hStep
          exact stir_conclude hOld (fun _ => rfl) hLater hFound rfl
  | opened buffer => cases hStep
  | finished result => cases hStep
  | dropped => cases hStep

theorem stir_stepClosing {stage : ClosingStage}
    (hConnection : before.connections[index]? = some connection)
    (hFound : before.sites[connection.site]? = some found)
    (hOld : before.sessions[id]? = some (.closing index stage))
    (hStep : before.stepClosing id index connection stage = some after) : Stir before after := by
  have hHome : before.siteOf? (.closing index stage) = some connection.site := by
    rw [siteOf?, hConnection]
    rfl
  unfold stepClosing at hStep
  cases stage with
  | starting =>
      simp only at hStep
      split at hStep
      · cases hStep
        exact .of_rests hOld rfl (fun _ => rfl) hHome hFound rfl rfl
      · cases hStep
        exact .of_rests hOld rfl (fun _ => rfl) hHome hFound rfl rfl
  | queued =>
      simp only at hStep
      split at hStep
      · split at hStep
        · cases hStep
        · next answer outlet channels hPending hCall =>
          cases hStep
          have hHomes : (({ before with channels } : Cluster).modifyConnection index
              fun connection => { connection with outlet }).siteOf? = before.siteOf? :=
            siteOf?_modifyConnection _ index fun _ => rfl
          refine .of_later hHomes rfl rfl ?_
          exact stir_conclude hOld (fun _ => rfl) ((congrFun hHomes _).trans hHome) hFound rfl
      · cases hStep
  | finished result => cases hStep
  | dropped => cases hStep

theorem stir_stepLoan {stage : LoanStage} (hFound : before.sites[site]? = some found)
    (hOld : before.sessions[id]? = some (.loan site stage))
    (hStep : before.stepLoan id site found.pool stage = some after) : Stir before after := by
  have hFail : ∀ error, some (before.conclude id (.loan site stage) (.loan site (.failed error))) =
      some after → Stir before after := by
    intro error hAfter
    cases hAfter
    exact stir_conclude hOld (fun _ => rfl) rfl hFound rfl
  unfold stepLoan at hStep
  cases stage with
  | starting limit =>
      cases hStep
      exact @Stir.turns _ _ id _ (.loan site (.awaiting _ _)) _ _ _ hOld rfl (fun _ => rfl) rfl hFound
        .asks (@sites_modifyPool (before.setAlarm limit).2 _ _ hFound (·.request id))
  | awaiting limit alarm =>
      simp only at hStep
      split at hStep
      · next buffer next hCollect =>
        cases hStep
        obtain ⟨capacity, rfl⟩ := Pool.collect_buffer hCollect
        exact @Stir.turns _ _ id _ (.loan site (.lent _)) _ _ _ hOld rfl (fun _ => rfl) rfl hFound
          (.collects hCollect) (sites_modifyPool hFound fun _ => next)
      · exact hFail _ hStep
      · split at hStep
        · exact hFail _ hStep
        · cases hStep
  | lent buffer => cases hStep
  | failed error => cases hStep
  | dropped => cases hStep

theorem stir_step (hPlaced : before.Placed) (hStep : before.step id = some after) :
    Stir before after := by
  unfold step at hStep
  split at hStep
  · cases hStep
  · next index stage hOld =>
    obtain ⟨connection, hConnection, hStep⟩ := Option.bind_eq_some_iff.1 hStep
    obtain ⟨pool, hPool, hStep⟩ := Option.bind_eq_some_iff.1 hStep
    obtain ⟨found, hFound, rfl⟩ := Option.map_eq_some_iff.1 hPool
    exact stir_stepWriter hConnection hFound hOld hStep
  · next index stage hOld =>
    obtain ⟨connection, hConnection, hStep⟩ := Option.bind_eq_some_iff.1 hStep
    obtain ⟨site, found, hHome, hFound⟩ := hPlaced _ (List.mem_of_getElem? hOld)
    rw [siteOf?, hConnection] at hHome
    cases hHome
    exact stir_stepClosing hConnection hFound hOld hStep
  · next site stage hOld =>
    obtain ⟨pool, hPool, hStep⟩ := Option.bind_eq_some_iff.1 hStep
    obtain ⟨found, hFound, rfl⟩ := Option.map_eq_some_iff.1 hPool
    exact stir_stepLoan hFound hOld hStep

theorem stir_append (hPlaced : before.Placed) (pieces : List Bytes) :
    Stir before (before.append id pieces) := by
  have hFills : ∀ {old last : Session} {buffer : Buffer}, before.sessions[id]? = some old →
      (∀ cluster : Cluster, cluster.siteOf? last = cluster.siteOf? old) →
      old.claim? = some (.has buffer) → last.claim? = some (.has (buffer.appendAll pieces)) →
      Stir before (before.setSession id last) := by
    intro old last buffer hOld hStays hClaim hLast
    obtain ⟨site, found, hHome, hFound⟩ := hPlaced old (List.mem_of_getElem? hOld)
    have hTurn : ClaimTurn id found.pool old.claim? found.pool last.claim? := by
      rw [hClaim, hLast]
      exact .fills buffer pieces
    exact .turns id hOld rfl hStays hHome hFound hTurn (sites_set_self hFound).symm
  unfold append
  split
  · next hOld => exact hFills hOld (fun _ => rfl) rfl rfl
  · next hOld => exact hFills hOld (fun _ => rfl) rfl rfl
  · exact .still rfl rfl

theorem stir_flush (hPlaced : before.Placed) : Stir before (before.flush id) := by
  rw [flush_eq]
  split
  · next index buffer hOld =>
    obtain ⟨site, found, hHome, hFound⟩ := hPlaced _ (List.mem_of_getElem? hOld)
    split
    · exact .still rfl rfl
    · split
      · exact stir_conclude hOld (fun _ => rfl) hHome hFound rfl
      · exact .of_rests hOld rfl (fun _ => rfl) hHome hFound rfl rfl
  · exact .still rfl rfl

theorem stir_drop (hPlaced : before.Placed) : Stir before (before.drop id) := by
  unfold drop
  split
  · exact .still rfl rfl
  · next session hOld =>
    obtain ⟨site, found, hHome, hFound⟩ := hPlaced _ (List.mem_of_getElem? hOld)
    cases session with
    | writer index stage => exact stir_conclude hOld (fun _ => rfl) hHome hFound rfl
    | closing index stage => exact stir_conclude hOld (fun _ => rfl) hHome hFound rfl
    | loan place stage => exact stir_conclude hOld (fun _ => rfl) hHome hFound rfl

/-- What a use does, whatever it is. -/
theorem stir_perform (hPlaced : before.Placed) {event : Event}
    (hUse : event.isUse before = true) : Stir before (before.perform event) := by
  cases event with
  | connect => exact .still rfl rfl
  | openWriter index =>
      obtain ⟨found, hBind⟩ := Option.isSome_iff_exists.1 hUse
      obtain ⟨site, hHome, hFound⟩ := Option.bind_eq_some_iff.1 hBind
      exact @Stir.begins _ _ (.writer index .starting) _ _ rfl hHome hFound rfl rfl
  | close index =>
      obtain ⟨found, hBind⟩ := Option.isSome_iff_exists.1 hUse
      obtain ⟨site, hHome, hFound⟩ := Option.bind_eq_some_iff.1 hBind
      exact @Stir.begins _ _ (.closing index .starting) _ _ rfl hHome hFound rfl rfl
  | borrow site limit =>
      obtain ⟨found, hFound⟩ := Option.isSome_iff_exists.1 hUse
      exact .begins rfl rfl hFound rfl rfl
  | step id =>
      cases hStep : before.step id with
      | none =>
          rw [perform_step_of_none hStep]
          exact .still rfl rfl
      | some after =>
          rw [perform_step_of_some hStep]
          exact stir_step hPlaced hStep
  | append id pieces => exact stir_append hPlaced pieces
  | flush id => exact stir_flush hPlaced
  | drop id => exact stir_drop hPlaced
  | unstall index => exact .still rfl rfl
  | elsewhere => cases hUse

/-- A session stays at its site, whatever happens. -/
theorem siteOf?_perform (event : Event) {session : Session}
    (hHome : before.siteOf? session = some site) :
    (before.perform event).siteOf? session = some site := by
  have hKept (index : Nat) (hIndex : before.siteOf? (.writer index .starting) = some site) :
      (before.perform event).siteOf? (.writer index .starting) = some site := by
    obtain ⟨connection, hConnection, rfl⟩ := Option.map_eq_some_iff.1 hIndex
    obtain ⟨next, hNext, hTurn⟩ := turn_perform hConnection event
    rw [siteOf?, hNext, hTurn.same]
    rfl
  cases session with
  | writer index stage => exact hKept index hHome
  | closing index stage => exact hKept index hHome
  | loan place stage => exact hHome

/-- Of a site, a use changes the pool only. -/
theorem Stir.site_kept (hStir : Stir before after) (hFound : before.sites[site]? = some found) :
    ∃ pool, after.sites[site]? = some { found with pool } := by
  cases hStir with
  | still _ hSites | begins _ _ _ _ hSites => exact ⟨found.pool, hSites ▸ hFound⟩
  | @turns _ _ _ place other pool _ _ _ _ hOther _ hSites =>
      rw [hSites]
      by_cases hPlace : place = site
      · subst hPlace
        cases hFound.symm.trans hOther
        obtain ⟨hSite, -⟩ := List.getElem?_eq_some_iff.1 hFound
        exact ⟨pool, List.getElem?_set_self hSite⟩
      · exact ⟨found.pool, by rw [List.getElem?_set_ne hPlace, hFound]⟩

theorem Placed.perform (hPlaced : before.Placed) {event : Event}
    (hUse : event.isUse before = true) : (before.perform event).Placed := by
  have hStir := stir_perform hPlaced hUse
  have hKept {session : Session} {site : Nat} {found : Site}
      (hHome : before.siteOf? session = some site) (hFound : before.sites[site]? = some found) :
      ∃ site found, (before.perform event).siteOf? session = some site ∧
        (before.perform event).sites[site]? = some found := by
    obtain ⟨pool, hNext⟩ := hStir.site_kept hFound
    exact ⟨site, _, siteOf?_perform event hHome, hNext⟩
  intro session hSession
  cases hStir with
  | still hSessions =>
      rw [hSessions] at hSession
      obtain ⟨site, found, hHome, hFound⟩ := hPlaced session hSession
      exact hKept hHome hFound
  | begins _ hHome hFound hSessions =>
      rw [hSessions] at hSession
      rcases List.mem_append.1 hSession with hOld | hNew
      · obtain ⟨site, found, hHome, hFound⟩ := hPlaced session hOld
        exact hKept hHome hFound
      · cases List.mem_singleton.1 hNew
        exact hKept hHome hFound
  | turns id _ hSessions hStays hHome hFound =>
      rw [hSessions] at hSession
      rcases List.mem_or_eq_of_mem_set hSession with hOld | rfl
      · obtain ⟨site, found, hHome, hFound⟩ := hPlaced session hOld
        exact hKept hHome hFound
      · exact hKept ((hStays before).trans hHome) hFound

/-- A session has the same of a pool, as long as it stays where it was. -/
theorem claims_perform (hPlaced : before.Placed) (event : Event) :
    before.sessions.map ((before.perform event).claimOn site) = before.claims site := by
  refine List.map_congr_left fun session hSession => ?_
  obtain ⟨place, found, hHome, -⟩ := hPlaced session hSession
  rw [claimOn, claimOn, siteOf?_perform event hHome, hHome]

/-- Every use is a turn on a pool. -/
theorem poolTurn_perform (hPlaced : before.Placed) {event : Event}
    (hUse : event.isUse before = true) (hFound : before.sites[site]? = some found) :
    ∃ pool, (before.perform event).sites[site]? = some { found with pool } ∧
      PoolTurn (before.claims site) found.pool ((before.perform event).claims site) pool := by
  have hClaims := @claims_perform before site hPlaced event
  cases stir_perform hPlaced hUse with
  | still hSessions hSites =>
      have hSame : (before.perform event).claims site = before.claims site := by
        rw [← hClaims, ← hSessions]
        rfl
      exact ⟨found.pool, hSites ▸ hFound, hSame ▸ .still⟩
  | @begins session _ _ hSession _ _ hSessions hSites =>
      have hNone : (before.perform event).claimOn site session = none := by
        simp [claimOn, hSession]
      have hMore : (before.perform event).claims site = before.claims site ++ [none] := by
        show (before.perform event).sessions.map _ = _
        rw [hSessions, List.map_append, hClaims, List.map_singleton, hNone]
      exact ⟨found.pool, hSites ▸ hFound, hMore ▸ .begins⟩
  | @turns id old last place other pool hOld hSessions hStays hHome hOther hTurn hSites =>
      have hMap : (before.perform event).claims site =
          (before.claims site).set id ((before.perform event).claimOn site last) := by
        show (before.perform event).sessions.map _ = _
        rw [hSessions, List.map_set, hClaims]
      have hClaim : (before.claims site)[id]? = some (before.claimOn site old) := by
        rw [claims, List.getElem?_map, hOld]
        rfl
      have hLast : (before.perform event).siteOf? last = some place :=
        siteOf?_perform event ((hStays before).trans hHome)
      rw [hMap, hSites]
      by_cases hPlace : place = site
      · subst hPlace
        cases hFound.symm.trans hOther
        obtain ⟨hSite, -⟩ := List.getElem?_eq_some_iff.1 hFound
        refine ⟨pool, List.getElem?_set_self hSite, .turns id hClaim ?_⟩
        rw [claimOn, claimOn, if_pos hHome, if_pos hLast]
        exact hTurn
      · refine ⟨found.pool, by rw [List.getElem?_set_ne hPlace, hFound], .turns id hClaim ?_⟩
        rw [claimOn, claimOn, if_neg (by simpa [hHome] using hPlace),
          if_neg (by simpa [hLast] using hPlace)]
        exact .rests none

end Uses

end Cluster

end ConfigExchange
