import ConfigExchange.Proofs.Cluster.Accounts
import ConfigExchange.Proofs.Cluster.Affairs

/-! The accounts of the pools while any number of messages are exchanged. At every moment they are
right, whoever succeeds or fails, and what is handed out is empty, so that what a frame is made of
was put in by the writer that sends it. -/
namespace ConfigExchange

open Cluster

/-- A pool that is closed is never opened again. -/
theorem PoolTurn.closed {claims last : List (Option Claim)} {pool next : Pool}
    (hTurn : PoolTurn claims pool last next) (hClosed : pool.closed = true) :
    next.closed = true := by
  cases hTurn with
  | still | begins => exact hClosed
  | closes => rfl
  | turns id hClaim hTurn =>
      cases hTurn with
      | rests | fills => exact hClosed
      | asks =>
          rw [Pool.request, if_pos hClosed]
          exact hClosed
      | withdraws => exact (Pool.withdraw_cases ..).1.trans hClosed
      | returns => exact (Pool.giveBack_cases ..).1.trans hClosed
      | collects hCollect =>
          obtain ⟨hOpen, -⟩ := Pool.collect_cases hCollect
          cases hOpen.symm.trans hClosed

/-- How a pool changes: who comes to have a buffer is given an empty one, by a pool that is open,
and a pool that is closed stays so. -/
structure Pool.Fair (pool next : Pool) (claims last : List (Option Claim)) : Prop where
  empty : ∀ (id : SessionId) (buffer : Buffer), (∀ old, claims[id]? ≠ some (some (.has old))) →
    last[id]? = some (some (.has buffer)) → buffer.bytes = [] ∧ pool.closed = false
  closed : pool.closed = true → next.closed = true

theorem PoolTurn.fair {claims last : List (Option Claim)} {pool next : Pool}
    (hTurn : PoolTurn claims pool last next) : pool.Fair next claims last where
  empty := fun _ _ hBefore hAfter => hTurn.hands_out hBefore hAfter
  closed := hTurn.closed

/-- What a socket has accepted is made of frames, or of the first bytes of frames, and each of them
has in it what its own writer put in its buffer, and nothing else. -/
structure Cluster.OwnFrames (start : Cluster) (index : Nat) (events : List Event)
    (log : List Attempt) : Prop where
  accepted : (start.run events).accepted index = log.flatMap Attempt.bytes
  payload : ∀ attempt ∈ log, attempt.payload = start.contents index events attempt.writer

namespace Cluster

variable {start cluster : Cluster} {index : Nat} {id : SessionId}

/-- Nobody writes on a connection that is not there. -/
theorem Placed.stage?_eq_none (hPlaced : cluster.Placed)
    (hNone : cluster.connections[index]? = none) (id : SessionId) :
    cluster.stage? index id = none := by
  cases hStage : cluster.stage? index id with
  | none => rfl
  | some stage =>
      obtain ⟨site, found, hHome, -⟩ :=
        hPlaced _ (List.mem_of_getElem? (stage?_eq_some.1 hStage))
      rw [siteOf?, hNone] at hHome
      cases hHome

theorem Placed.closer?_eq_none (hPlaced : cluster.Placed)
    (hNone : cluster.connections[index]? = none) (id : SessionId) :
    cluster.closer? index id = none := by
  cases hStage : cluster.closer? index id with
  | none => rfl
  | some stage =>
      obtain ⟨site, found, hHome, -⟩ :=
        hPlaced _ (List.mem_of_getElem? (closer?_eq_some.1 hStage))
      rw [siteOf?, hNone] at hHome
      cases hHome

/-- Nobody has come yet to a connection that was just made. -/
theorem pristine_connect (hPlaced : cluster.Placed) (site : Nat) (remote : Member)
    (version : Version) (script : SocketScript) :
    Pristine cluster.connections.length
      (cluster.enact (.use (.connect site remote version (.socket { script })))) := by
  have hNone : cluster.connections[cluster.connections.length]? = none :=
    List.getElem?_eq_none (Nat.le_refl _)
  exact ⟨⟨_, script, List.getElem?_concat_length .., rfl, rfl, rfl⟩, hPlaced.stage?_eq_none hNone,
    hPlaced.closer?_eq_none hNone⟩

theorem Pristine.ownFrames (hPristine : Pristine index start) (events : List Event) :
    start.OwnFrames index events (Watch.run index ⟨start, []⟩ events).log where
  accepted := by
    obtain ⟨connection, socket, hSound⟩ := hPristine.sound_run events
    have hCluster : (Watch.run index ⟨start, []⟩ events).cluster = start.run events :=
      Watch.cluster_run ..
    rw [← hCluster, accepted_eq hSound.present hSound.outlet]
    exact hSound.ledger.accepted
  payload := (hPristine.filled_run events).logged

end Cluster

namespace Affairs

/-- Whatever messages are exchanged, given up or failed, and whatever else is done: at every moment
the permits of a pool that are free and those that are handed out are as many as at the start. They
are handed out to sessions that have a buffer, and to sessions that wait for one still, one to each:
whoever gives up leaves none behind. There are never more buffers than permits, and none is kept
once the pool is closed. A buffer that is handed out is empty, and comes from a pool that is open.
On a connection that is made on the way, every frame has in it what its own writer put in. -/
theorem accounts_run (members : List (Member × Settings)) (moves : List Move) {site : Nat}
    {member : Member × Settings} (hMember : members[site]? = some member)
    {past later : List Deed}
    (hHistory : (Affairs.run (ofMembers members) {} moves).history = past ++ later) :
    let start := ofMembers members
    let cluster := start.enactAll past
    ∃ found, cluster.sites[site]? = some found ∧
      found.pool.Balanced member.2.poolSize (cluster.claims site) ∧
      (∀ deed rest, later = deed :: rest → ∃ next, (cluster.enact deed).sites[site]? = some next ∧
        found.pool.Fair next.pool (cluster.claims site) ((cluster.enact deed).claims site)) ∧
      ∀ remote version script rest,
        let connect := .use (.connect site remote version (.socket { script }))
        later = connect :: rest →
          let index := cluster.connections.length
          let base := cluster.enact connect
          let events := base.course rest
          base.run events = start.enactAll (past ++ later) ∧
            base.OwnFrames index events (Watch.run index ⟨base, []⟩ events).log := by
  intro start cluster
  have hPlaced : cluster.Placed := (placed_ofMembers members).enactAll past
  obtain ⟨found, hFound, hBalanced⟩ := balanced_enactAll (placed_ofMembers members)
    (site_ofMembers hMember) (Pool.Balanced.ofSize ..) past
  refine ⟨found, hFound, hBalanced, ?_, ?_⟩
  · rintro deed rest -
    obtain ⟨pool, cache, hNext, hTurn⟩ := poolTurn_enact hPlaced hFound deed
    exact ⟨_, hNext, hTurn.fair⟩
  · rintro remote version script rest connect rfl index base events
    refine ⟨?_, (pristine_connect hPlaced site remote version script).ownFrames events⟩
    rw [run_course, enactAll_append]
    rfl

/-- What is done first is done before all else. -/
theorem history_first (start : Cluster) (deed : Deed) (rest : List Move) :
    ∃ deeds, (Affairs.run start {} (.other deed :: rest)).history = deed :: deeds :=
  conduct.history_run start ⟨[deed], []⟩ rest

/-- There is a single buffer. Of two who ask for it, the first is given the permit and gives up, so
that the second is given it, and gives up as well. Then a message is given up when half of it is in
the buffer, and the next one is sent without any of it. At last the pool is closed. -/
theorem accounts_after_refusal :
    let members : List (Member × Settings) := [(Replying.peer, { poolSize := 1 })]
    let start := ofMembers members
    let connect : Deed := .use (.connect 0 Replying.peer .v2 (.socket {}))
    let ask (id : SessionId) : List Move := [.other (.use (.borrow 0 50)), .other (.use (.step id))]
    let giveUp (id : SessionId) : Move := .other (.use (.drop id))
    let sender : Sender := { connection := 0, recipient := Replying.peer }
    let rest : List Move := ask 0 ++ ask 1 ++ [giveUp 0, giveUp 1] ++
      [.begin (0, .send sender (.refusing [1, 2] "unfit"))] ++ List.replicate 7 (.go 0) ++
      [.begin (0, .send sender fun _ => ⟨[[7]], none⟩)] ++ List.replicate 10 (.go 1) ++
      [.other (.tell 0 .closePool)]
    let history := (Affairs.run start {} (.other connect :: rest)).history
    let handed := start.enactAll (history.take 6)
    let last := start.enactAll history
    let events := (start.enact connect).course history.tail
    (∃ found, handed.sites[0]? = some found ∧ found.pool.Balanced 1 (handed.claims 0)) ∧
      (handed.sites[0]?.map fun site => (site.pool.free, site.pool.granted)) = some (0, [1]) ∧
      (∃ found, last.sites[0]? = some found ∧ found.pool.Balanced 1 (last.claims 0)) ∧
      (last.sites[0]?.map fun site =>
        (site.pool.free, site.pool.closed, site.pool.recycled.length)) = some (1, true, 0) ∧
      ((start.enact connect).run events).accepted 0 = [0, 0, 0, 1, 7] ∧
      (start.enact connect).OwnFrames 0 events
        (Watch.run 0 ⟨start.enact connect, []⟩ events).log := by
  intro members start connect ask giveUp sender rest history handed last events
  have hMember : members[0]? = some (Replying.peer, { poolSize := 1 }) := rfl
  obtain ⟨deeds, hDeeds⟩ := history_first start connect rest
  have hTail : history.tail = deeds := congrArg List.tail hDeeds
  obtain ⟨between, hBetween, hHanded, -⟩ := accounts_run members (.other connect :: rest) hMember
    (List.take_append_drop 6 history).symm
  obtain ⟨found, hFound, hBalanced, -⟩ :=
    accounts_run members (.other connect :: rest) hMember (List.append_nil history).symm
  obtain ⟨-, -, -, -, hFrames⟩ := accounts_run members (.other connect :: rest) hMember
    (hDeeds.trans (List.nil_append _).symm)
  refine ⟨⟨between, hBetween, hHanded⟩, by decide +kernel, ⟨found, hFound, hBalanced⟩,
    by decide +kernel, by decide +kernel, ?_⟩
  have hEvents : events = (start.enact connect).course deeds :=
    congrArg (start.enact connect).course hTail
  rw [hEvents]
  exact (hFrames Replying.peer .v2 {} deeds rfl).2

end Affairs

end ConfigExchange
