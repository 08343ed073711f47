import ConfigExchange.Proofs.Cluster.Balance
import Mathlib.Data.List.Perm.Subperm

/-! What connections take of the pool they share. Only who has the lock of a connection has a buffer
for it or has asked for one, so there are never more of them than connections with unfinished
sends, however many wait for their locks or for answers. -/
namespace ConfigExchange

open Cluster

/-- A writer has something of the pool just as long as it has its connection to itself. -/
theorem WriterStage.isSome_claim? (stage : WriterStage) : stage.claim?.isSome = stage.holds := by
  cases stage <;> rfl

theorem WriterStage.isOver_of_holds {stage : WriterStage} (hHolds : stage.holds = true) :
    stage.isOver = false := by
  cases stage <;> first | rfl | cases hHolds

/-- Who has the lock does not wait for it. -/
theorem InLine.not_mem_queue {lock : Lock} {grants writers : List SessionId}
    {asked : SessionId → Prop} {id : SessionId} (hLine : InLine lock grants writers asked)
    (hHolder : lock.holder = some id) : id ∉ lock.queue := by
  obtain ⟨earlier, hGrants, -⟩ := hLine.holder id hHolder
  have hApart := List.disjoint_of_nodup_append hLine.nodup
  exact hApart (hGrants ▸ List.mem_append_right _ (List.mem_singleton_self id))

namespace Cluster

variable {cluster : Cluster} {index site : Nat} {id : SessionId} {stage : WriterStage}

/-! ### The locks -/

/-- Connections come into being only by being made. -/
theorem connections_perform_none (hNone : cluster.connections[index]? = none) (event : Event) :
    (cluster.perform event).connections[index]? = none ∨
      ∃ site remote version outlet, event = .connect site remote version outlet := by
  have hElsewhere {place : Nat} {found : Connection}
      (hFound : cluster.connections[place]? = some found) : index ≠ place := by
    rintro rfl
    cases hNone.symm.trans hFound
  have hConclude (id : SessionId) (old last : Session) :
      (cluster.conclude id old last).connections[index]? = none := by
    show (cluster.giveUp id old).connections[index]? = none
    rw [connections_giveUp]
    split
    · rw [List.getElem?_modify, hNone]
      rfl
    · exact hNone
  cases event with
  | connect site remote version outlet => exact .inr ⟨site, remote, version, outlet, rfl⟩
  | openWriter | close | borrow | elsewhere => exact .inl hNone
  | step id =>
      refine .inl ?_
      cases hStep : cluster.step id with
      | none => rwa [perform_step_of_none hStep]
      | some after =>
          rw [perform_step_of_some hStep]
          unfold step at hStep
          split at hStep
          · cases hStep
          · obtain ⟨found, hFound, hStep⟩ := Option.bind_eq_some_iff.1 hStep
            obtain ⟨pool, -, hStep⟩ := Option.bind_eq_some_iff.1 hStep
            obtain ⟨next, last, -, hChanges⟩ := turn_stepWriter hFound hStep
            rw [hChanges.elsewhere index (hElsewhere hFound), hNone]
          · obtain ⟨found, hFound, hStep⟩ := Option.bind_eq_some_iff.1 hStep
            obtain ⟨next, last, -, hChanges⟩ := turn_stepClosing hFound hStep
            rw [hChanges.elsewhere index (hElsewhere hFound), hNone]
          · obtain ⟨pool, -, hStep⟩ := Option.bind_eq_some_iff.1 hStep
            rw [(turn_stepLoan hStep).1, hNone]
  | append id pieces =>
      refine .inl ?_
      show (cluster.append id pieces).connections[index]? = none
      unfold append
      split <;> exact hNone
  | flush id =>
      refine .inl ?_
      show (cluster.flush id).connections[index]? = none
      rw [flush_eq]
      split
      · split
        · exact hNone
        · split
          · exact hConclude ..
          · exact hNone
      · exact hNone
  | drop id =>
      refine .inl ?_
      show (cluster.drop id).connections[index]? = none
      unfold drop
      split
      · exact hNone
      · split <;> exact hConclude ..
  | unstall place =>
      refine .inl ?_
      show (cluster.unstall place).connections[index]? = none
      rw [unstall, connections_modifyConnection, List.getElem?_modify, hNone]
      rfl

/-- Nobody has the lock of a connection that has just been made, nor waits for it. -/
theorem lock_perform_of_none (hNone : cluster.connections[index]? = none) {event : Event}
    {next : Connection} (hNext : (cluster.perform event).connections[index]? = some next) :
    next.lock = {} := by
  rcases connections_perform_none hNone event with hStill | ⟨site, remote, version, outlet, rfl⟩
  · cases hStill.symm.trans hNext
  · have hAppend : (cluster.connections ++ [_])[index]? = some next := hNext
    rw [List.getElem?_append_right (List.getElem?_eq_none_iff.1 hNone),
      List.getElem?_singleton] at hAppend
    split at hAppend <;> cases hAppend
    rfl

/-- On every connection who writes has the lock, and those who wait for it stand in line. -/
def Orderly (cluster : Cluster) : Prop :=
  ∀ index connection, cluster.connections[index]? = some connection →
    Held (cluster.stage? index) connection.lock ∧
      ∃ grants, InLine connection.lock grants [] (cluster.HasAsked index)

theorem Orderly.perform (hOrderly : cluster.Orderly) (hPlaced : cluster.Placed) (event : Event) :
    (cluster.perform event).Orderly := by
  intro index next hNext
  cases hConnection : cluster.connections[index]? with
  | some connection =>
      obtain ⟨hHeld, grants, hLine⟩ := hOrderly index connection hConnection
      obtain ⟨later, hLater, hTurn⟩ := turn_perform hConnection event
      cases hNext.symm.trans hLater
      exact ⟨hHeld.turn hTurn, _, hLine.turn hTurn.lock fun _ => hTurn.hasAsked⟩
  | none =>
      rcases connections_perform_none hConnection event with
        hNone | ⟨site, remote, version, outlet, rfl⟩
      · cases hNone.symm.trans hNext
      · -- Nobody has come yet to a connection that was not there.
        refine ⟨fun id stage hStage => ?_, [], ?_⟩
        · cases (hPlaced.stage?_eq_none hConnection id).symm.trans hStage
        · rw [lock_perform_of_none hConnection hNext]
          exact ⟨fun _ => rfl, .nil, nofun, .slnil, nofun⟩

theorem Orderly.enact (hOrderly : cluster.Orderly) (hPlaced : cluster.Placed) (deed : Deed) :
    (cluster.enact deed).Orderly := by
  rcases enact_cases cluster deed with hSame | ⟨event, -, hEvent⟩
  · rwa [hSame]
  · rw [hEvent]
    exact hOrderly.perform hPlaced event

theorem Orderly.enactAll (hOrderly : cluster.Orderly) (hPlaced : cluster.Placed)
    (deeds : List Deed) : (cluster.enactAll deeds).Orderly := by
  induction deeds generalizing cluster with
  | nil => exact hOrderly
  | cons deed rest ih => exact ih (hOrderly.enact hPlaced deed) (hPlaced.enact deed)

theorem orderly_ofMembers (members : List (Member × Settings)) : (ofMembers members).Orderly :=
  nofun

/-- Who has something of the pool for a connection has its lock. -/
theorem Orderly.holder (hOrderly : cluster.Orderly) (hPlaced : cluster.Placed)
    (hStage : cluster.stage? index id = some stage) (hClaim : stage.claim?.isSome = true) :
    ∃ connection, cluster.connections[index]? = some connection ∧
      connection.lock.holder = some id := by
  cases hConnection : cluster.connections[index]? with
  | none => cases (hPlaced.stage?_eq_none hConnection id).symm.trans hStage
  | some connection =>
      exact ⟨connection, rfl, (hOrderly index connection hConnection).1 id stage hStage
        (stage.isSome_claim? ▸ hClaim)⟩

/-! ### The shares -/

/-- The connection for which a session has something of the pool of a site. -/
def shareOf? (cluster : Cluster) (site : Nat) (session : Session) : Option Nat :=
  match session with
  | .writer index _ => if (cluster.claimOn site session).isSome then some index else none
  | _ => none

/-- The connections for which sessions have something of the pool of a site, once for each. -/
def shares (cluster : Cluster) (site : Nat) : List Nat :=
  cluster.sessions.filterMap (cluster.shareOf? site)

/-- How many others have something of the pool of a site. -/
def loans (cluster : Cluster) (site : Nat) : Nat :=
  cluster.sessions.countP fun session =>
    (cluster.shareOf? site session).isNone && (cluster.claimOn site session).isSome

/-- Whether a session is a writer on a connection of a site, and not done. -/
def isUnfinished (cluster : Cluster) (site index : Nat) (session : Session) : Bool :=
  match session with
  | .writer place stage => place = index && !stage.isOver && cluster.siteOf? session = some site
  | _ => false

/-- The connections of a site on which there is a writer that is not done. -/
def busy (cluster : Cluster) (site : Nat) : List Nat :=
  (List.range cluster.connections.length).filter fun index =>
    cluster.sessions.any (cluster.isUnfinished site index)

theorem shareOf?_eq_some {session : Session} (hShare : cluster.shareOf? site session = some index) :
    ∃ stage, session = .writer index stage ∧ cluster.siteOf? session = some site ∧
      stage.claim?.isSome = true := by
  unfold shareOf? at hShare
  split at hShare
  · next place stage =>
    split at hShare
    · next hClaim =>
      cases hShare
      unfold claimOn at hClaim
      split at hClaim
      · next hSite => exact ⟨stage, rfl, hSite, hClaim⟩
      · cases hClaim
    · cases hShare
  · cases hShare

/-- No two sessions have something of a pool for one connection. -/
theorem Orderly.nodup_shares (hOrderly : cluster.Orderly) (hPlaced : cluster.Placed) (site : Nat) :
    (cluster.shares site).Nodup := by
  rw [shares, List.Nodup, List.pairwise_filterMap, List.pairwise_iff_getElem]
  rintro first second hFirst hSecond hLess index hShare other hOther rfl
  obtain ⟨stage, hSession, -, hClaim⟩ := shareOf?_eq_some hShare
  obtain ⟨found, hFound, -, hHas⟩ := shareOf?_eq_some hOther
  obtain ⟨connection, hConnection, hHolder⟩ := hOrderly.holder hPlaced
    (stage?_eq_some.2 (List.getElem?_eq_some_iff.2 ⟨hFirst, hSession⟩)) hClaim
  obtain ⟨same, hSame, hHolds⟩ := hOrderly.holder hPlaced
    (stage?_eq_some.2 (List.getElem?_eq_some_iff.2 ⟨hSecond, hFound⟩)) hHas
  cases hConnection.symm.trans hSame
  exact Nat.ne_of_lt hLess (Option.some_inj.1 (hHolder.symm.trans hHolds))

theorem shares_subset_busy (cluster : Cluster) (site : Nat) :
    cluster.shares site ⊆ cluster.busy site := by
  intro index hShare
  obtain ⟨session, hSession, hShare⟩ := List.mem_filterMap.1 hShare
  obtain ⟨stage, rfl, hSite, hClaim⟩ := shareOf?_eq_some hShare
  obtain ⟨connection, hConnection, -⟩ := Option.map_eq_some_iff.1 hSite
  refine List.mem_filter.2 ⟨List.mem_range.2 (List.getElem?_eq_some_iff.1 hConnection).1,
    List.any_eq_true.2 ⟨_, hSession, ?_⟩⟩
  have hOver := WriterStage.isOver_of_holds (stage.isSome_claim? ▸ hClaim)
  simp [isUnfinished, hOver, hSite]

/-- No more is in use through connections than connections have unfinished writers. -/
theorem Orderly.length_shares_le (hOrderly : cluster.Orderly) (hPlaced : cluster.Placed)
    (site : Nat) : (cluster.shares site).length ≤ (cluster.busy site).length :=
  ((hOrderly.nodup_shares hPlaced site).subperm
    (cluster.shares_subset_busy site)).length_le

theorem countP_claims (cluster : Cluster) (site : Nat) :
    (cluster.claims site).countP Option.isSome =
      (cluster.shares site).length + cluster.loans site := by
  rw [claims, shares, loans, List.countP_map, List.length_filterMap_eq_countP,
    List.countP_eq_countP_filter_add cluster.sessions _ fun session =>
      (cluster.shareOf? site session).isSome, List.countP_filter, List.countP_filter]
  congr 1
  · refine List.countP_congr fun session _ => ?_
    cases hShare : cluster.shareOf? site session with
    | none => simp
    | some index =>
        obtain ⟨stage, rfl, hSite, hClaim⟩ := shareOf?_eq_some hShare
        have hSome : (cluster.claimOn site (.writer index stage)).isSome = true := by
          rw [claimOn, if_pos hSite]
          exact hClaim
        simp [hSome]
  · refine List.countP_congr fun session _ => ?_
    cases cluster.shareOf? site session <;> simp

end Cluster

/-- Those who were given a permit have asked for it, each in its own name. -/
theorem Pool.Balanced.granted_le {pool : Pool} {size : Nat} {claims : List (Option Claim)}
    (hBalanced : pool.Balanced size claims) :
    pool.granted.length + lent claims ≤ claims.countP Option.isSome := by
  -- The names of those who wait are the places in which something is waited for.
  let waiting := (claims.zipIdx.filter fun entry => entry.1.any (!·.isBuffer)).map (·.2)
  have hSubset : pool.granted ⊆ waiting := by
    intro id hId
    have hAsked := hBalanced.asked id (List.mem_append_left _ hId)
    exact List.mem_map.2 ⟨(some .waits, id), List.mem_filter.2
      ⟨List.mem_zipIdx_iff_getElem?.2 hAsked, rfl⟩, rfl⟩
  have hNodup : pool.granted.Nodup := (List.nodup_append'.1 hBalanced.distinct).1
  have hLength : waiting.length = claims.countP (·.any (!·.isBuffer)) := by
    rw [List.length_map, ← List.countP_eq_length_filter]
    conv => rhs; rw [← List.zipIdx_map_fst 0 claims, List.countP_map]
    rfl
  have hGranted := (hNodup.subperm hSubset).length_le
  have hSplit : claims.countP Option.isSome =
      claims.countP (·.any (!·.isBuffer)) + claims.countP (·.any Claim.isBuffer) := by
    rw [List.countP_eq_countP_filter_add claims _ (·.any (!·.isBuffer)), List.countP_filter,
      List.countP_filter]
    congr 1 <;> refine List.countP_congr fun claim _ => ?_
    · cases claim <;> simp
    · cases claim <;> simp
  rw [hSplit, lent]
  omega

/-- The permits that are not free are in the hands of those who have something of the pool. -/
theorem Pool.Balanced.size_le {cluster : Cluster} {site : Nat} {pool : Pool} {size : Nat}
    (hBalanced : pool.Balanced size (cluster.claims site)) :
    size ≤ pool.free + ((cluster.shares site).length + cluster.loans site) := by
  have hGranted := hBalanced.granted_le
  have hPermits := hBalanced.permits
  rw [countP_claims] at hGranted
  omega

/-- While a frame is read no message is being sent. -/
theorem Exchange.writer?_of_isReading {exchange : Exchange} (hReading : exchange.isReading = true) :
    exchange.writer? = none := by
  cases exchange with
  | sending | answering => cases hReading
  | requesting request =>
      obtain ⟨place, inlet, processor, stage⟩ := request
      cases stage with
      | reading => rfl
      | sending | finished => cases hReading
  | serving server =>
      obtain ⟨place, inlet, stage⟩ := server
      cases stage with
      | reading => rfl
      | replying | finished => cases hReading

namespace Affairs

/-- Why a connection is taken for busy: the message of an exchange on it is being sent, or a writer
that nobody but its user has is not done. -/
theorem busy_cases {start : Cluster} {affairs : Affairs} (hSound : Sound start affairs) {site : Nat}
    {index : Nat} (hBusy : index ∈ (start.enactAll affairs.history).busy site) :
    ∃ id stage, (start.enactAll affairs.history).stage? index id = some stage ∧
      stage.isOver = false ∧
      ∀ affair ∈ affairs.parties, id ∈ affair.writers →
        affair.connection = index ∧ affair.exchange.writer? = some id := by
  obtain ⟨-, hAny⟩ := List.mem_filter.1 hBusy
  obtain ⟨session, hSession, hUnfinished⟩ := List.any_eq_true.1 hAny
  unfold isUnfinished at hUnfinished
  split at hUnfinished
  · next place stage =>
    simp only [Bool.and_eq_true, decide_eq_true_eq, Bool.not_eq_true'] at hUnfinished
    obtain ⟨⟨rfl, hOver⟩, -⟩ := hUnfinished
    obtain ⟨id, hId⟩ := List.mem_iff_getElem?.1 hSession
    have hStage := stage?_eq_some.2 hId
    refine ⟨id, stage, hStage, hOver, fun affair hAffair hWriter => ?_⟩
    obtain ⟨found, hFound, hCurrent⟩ := (hSound.each affair hAffair).writers id hWriter
    cases hId.symm.trans (stage?_eq_some.1 hFound)
    exact ⟨rfl, hCurrent.resolve_left (by simp [hOver])⟩
  · cases hUnfinished

/-- Whatever messages are exchanged at a time, and however their steps come in turn or are kept
waiting: who has a buffer for a connection, or a permit for one, has its lock, so there is one at
most for each connection. Of the writers of an exchange none has anything but the one whose message
is being sent, and not while it waits for the lock; while an answer is waited for none has. So what
is in use through connections is no more than there are connections with unfinished sends, and all
else is free or on loan. -/
theorem shares_run (members : List (Member × Settings)) (moves : List Move) :
    let start := ofMembers members
    let affairs := Affairs.run start {} moves
    let cluster := start.enactAll affairs.history
    (∀ index id stage, cluster.stage? index id = some stage → stage.claim?.isSome = true →
      ∃ connection, cluster.connections[index]? = some connection ∧
        connection.lock.holder = some id ∧ id ∉ connection.lock.queue) ∧
      (∀ affair ∈ affairs.parties, ∀ id ∈ affair.writers, ∃ stage,
        cluster.stage? affair.connection id = some stage ∧
          (stage.claim?.isSome = true → affair.exchange.writer? = some id) ∧
          (affair.exchange.isReading = true → stage.claim? = none)) ∧
      ∀ site member, members[site]? = some member →
        (cluster.shares site).Nodup ∧ (cluster.shares site).length ≤ (cluster.busy site).length ∧
          (∀ index ∈ cluster.busy site, ∃ id stage, cluster.stage? index id = some stage ∧
            stage.isOver = false ∧ ∀ affair ∈ affairs.parties, id ∈ affair.writers →
              affair.connection = index ∧ affair.exchange.writer? = some id) ∧
          ∃ found, cluster.sites[site]? = some found ∧
            member.2.poolSize ≤
              found.pool.free + ((cluster.busy site).length + cluster.loans site) := by
  intro start affairs cluster
  have hPlaced : cluster.Placed := (placed_ofMembers members).enactAll affairs.history
  have hOrderly : cluster.Orderly :=
    (orderly_ofMembers members).enactAll (placed_ofMembers members) affairs.history
  have hSound : Sound start affairs :=
    (keeps_sound (placed_ofMembers members)).run (Conduct.Sound.idle ..) moves
  refine ⟨fun index id stage hStage hClaim => ?_, fun affair hAffair id hId => ?_,
    fun site member hMember => ?_⟩
  · obtain ⟨connection, hConnection, hHolder⟩ := hOrderly.holder hPlaced hStage hClaim
    obtain ⟨-, grants, hLine⟩ := hOrderly index connection hConnection
    exact ⟨connection, hConnection, hHolder, hLine.not_mem_queue hHolder⟩
  · obtain ⟨stage, hStage, hCurrent⟩ := (hSound.each affair hAffair).writers id hId
    have hOnly (hClaim : stage.claim?.isSome = true) : affair.exchange.writer? = some id :=
      hCurrent.resolve_left (by
        simp [WriterStage.isOver_of_holds (stage.isSome_claim? ▸ hClaim)])
    refine ⟨stage, hStage, hOnly, fun hReading => ?_⟩
    rw [← Option.not_isSome_iff_eq_none]
    intro hClaim
    cases (Exchange.writer?_of_isReading hReading).symm.trans (hOnly hClaim)
  · obtain ⟨found, hFound, hBalanced⟩ := balanced_enactAll (placed_ofMembers members)
      (site_ofMembers hMember) (Pool.Balanced.ofSize ..) affairs.history
    have hShares := hOrderly.length_shares_le hPlaced site
    have hSize : member.2.poolSize ≤
        found.pool.free + ((cluster.shares site).length + cluster.loans site) := hBalanced.size_le
    exact ⟨hOrderly.nodup_shares hPlaced site, hShares, fun index hBusy => busy_cases hSound hBusy,
      found, hFound, by omega⟩

/-- A peer does not read, so a send to it is kept waiting with one of two buffers, and another send
to it waits for the lock. A send to somebody else goes through meanwhile. -/
theorem shares_stalled_peer :
    let members : List (Member × Settings) := [(Replying.peer, { poolSize := 2 })]
    let start := ofMembers members
    let connect (script : SocketScript) : Move :=
      .other (.use (.connect 0 Replying.peer .v2 (.socket { script })))
    let send (index : Nat) : Move :=
      .begin (index,
        .send { connection := index, recipient := Replying.peer } fun _ => ⟨[[7]], none⟩)
    let moves := [connect { writes := [.stall] }, connect {}, send 0, send 0, send 1] ++
      List.replicate 7 (.go 0) ++ List.replicate 5 (.go 1) ++ List.replicate 12 (.go 2)
    let affairs := Affairs.run start {} moves
    let cluster := start.enactAll affairs.history
    (affairs.parties.map (·.writers) = [[0], [1], [2]] ∧ cluster.accepted 0 = [] ∧
      cluster.accepted 1 = [0, 0, 0, 1, 7]) ∧
      (cluster.shares 0 = [0] ∧ cluster.busy 0 = [0] ∧ cluster.loans 0 = 0) ∧
      (cluster.shares 0).Nodup ∧ (cluster.shares 0).length ≤ (cluster.busy 0).length ∧
      ∃ found, cluster.sites[0]? = some found ∧
        2 ≤ found.pool.free + ((cluster.busy 0).length + cluster.loans 0) := by
  intro members start connect send moves affairs cluster
  have hMember : members[0]? = some (Replying.peer, { poolSize := 2 }) := rfl
  obtain ⟨-, -, hSites⟩ := shares_run members moves
  obtain ⟨hNodup, hLength, -, hFree⟩ := hSites 0 _ hMember
  exact ⟨by decide +kernel, by decide +kernel, hNodup, hLength, hFree⟩

end Affairs

end ConfigExchange
