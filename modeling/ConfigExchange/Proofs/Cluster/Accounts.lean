import ConfigExchange.Proofs.Cluster.Deed

/-! The accounts of a pool. There are as many permits as there were at the start, whoever has them,
and there are never more buffers than permits. -/
namespace ConfigExchange

/-- Who has asked for a buffer and did not collect it yet. -/
def Pool.asking (pool : Pool) : List SessionId := pool.granted ++ pool.waiting

/-- How many buffers sessions have. -/
def lent (claims : List (Option Claim)) : Nat := claims.countP (·.any Claim.isBuffer)

theorem lent_set {claims : List (Option Claim)} {id : SessionId} {claim : Option Claim}
    (hClaim : claims[id]? = some claim) (last : Option Claim) :
    lent (claims.set id last) + [claim].countP (·.any Claim.isBuffer) =
      lent claims + [last].countP (·.any Claim.isBuffer) := by
  obtain ⟨hId, rfl⟩ := List.getElem?_eq_some_iff.1 hClaim
  rw [lent, lent, List.set_eq_take_append_cons_drop, if_pos hId]
  have hSplit : claims = claims.take id ++ claims[id] :: claims.drop (id + 1) := by simp
  conv => rhs; rw [hSplit]
  simp only [List.countP_append, List.countP_cons, List.countP_nil]
  omega

namespace Pool

variable {pool next : Pool} {id : SessionId} {buffer : Buffer}

/-! ### What becomes of permits and of those who ask -/

@[simp] theorem closed_release (pool : Pool) : pool.release.closed = pool.closed := by
  unfold release
  split <;> rfl

@[simp] theorem recycled_release (pool : Pool) : pool.release.recycled = pool.recycled := by
  unfold release
  split <;> rfl

@[simp] theorem waiting_release (pool : Pool) : pool.release.waiting = pool.waiting.tail := by
  unfold release
  split
  · next hNone => rw [hNone]; rfl
  · next hWaiting => rw [hWaiting]; rfl

@[simp] theorem asking_release (pool : Pool) : pool.release.asking = pool.asking := by
  unfold release asking
  split
  · rfl
  · next hWaiting => rw [hWaiting, List.append_assoc]; rfl

theorem permits_release (pool : Pool) :
    pool.release.free + pool.release.granted.length = pool.free + pool.granted.length + 1 := by
  unfold release
  split
  · simp only
    omega
  · simp only [List.length_append, List.length_singleton]
    omega

/-- Who asks is given a permit or comes to wait for one, unless the pool is closed. -/
theorem request_cases (pool : Pool) (id : SessionId) :
    pool.request id = pool ∨ pool.closed = false ∧ (pool.request id).closed = false ∧
      (pool.request id).recycled = pool.recycled ∧
      (pool.request id).free + (pool.request id).granted.length =
        pool.free + pool.granted.length ∧
      (pool.request id).asking.Perm (id :: pool.asking) := by
  unfold request
  split
  · exact .inl rfl
  · next hOpen =>
    have hOpen : pool.closed = false := by simpa using hOpen
    refine .inr ⟨hOpen, ?_⟩
    split
    · refine ⟨hOpen, rfl, rfl, ?_⟩
      simp only [asking, ← List.append_assoc]
      exact List.perm_append_singleton ..
    · next free hFree =>
      refine ⟨hOpen, rfl, by simp only [List.length_append, List.length_singleton]; omega, ?_⟩
      simp only [asking, List.append_assoc, List.singleton_append]
      exact List.perm_middle

theorem asking_withdraw (pool : Pool) (id : SessionId) :
    (pool.withdraw id).asking = pool.asking.erase id := by
  unfold withdraw
  split
  · next hGranted => rw [asking_release, asking, asking, List.erase_append_left _ hGranted]
  · next hGranted => rw [asking, asking, List.erase_append_right _ hGranted]

/-- Who withdraws gives up its place. A permit it was given goes on to the next one. -/
theorem withdraw_cases (pool : Pool) (id : SessionId) :
    (pool.withdraw id).closed = pool.closed ∧ (pool.withdraw id).recycled = pool.recycled ∧
      (pool.withdraw id).free + (pool.withdraw id).granted.length =
        pool.free + pool.granted.length ∧
      (pool.waiting = [] → (pool.withdraw id).waiting = []) := by
  unfold withdraw
  split
  · next hGranted =>
    refine ⟨closed_release _, recycled_release _, ?_, fun hNone => ?_⟩
    · rw [permits_release]
      have hLength := List.length_erase_of_mem hGranted
      have hPos := List.length_pos_of_mem hGranted
      simp only
      omega
    · rw [waiting_release, hNone]
      rfl
  · exact ⟨rfl, rfl, rfl, fun hNone => by rw [hNone]; rfl⟩

/-- Only who has a permit collects a buffer, and only while the pool is open. -/
theorem collect_cases (hCollect : pool.collect id = (.buffer buffer, next)) :
    pool.closed = false ∧ id ∈ pool.granted ∧ buffer.bytes = [] ∧
      next = { pool with granted := pool.granted.erase id, recycled := pool.recycled.tail } := by
  obtain ⟨capacity, rfl⟩ := collect_buffer hCollect
  unfold collect at hCollect
  split at hCollect
  · cases hCollect
  · next hOpen =>
    split at hCollect
    · next hGranted => exact ⟨by simpa using hOpen, hGranted, rfl, (Prod.ext_iff.1 hCollect).2.symm⟩
    · cases hCollect

/-- A buffer that comes back is kept at most, and its permit goes on to the next one. -/
theorem giveBack_cases (pool : Pool) (buffer : Buffer) :
    (pool.giveBack buffer).closed = pool.closed ∧
      (pool.giveBack buffer).recycled.length ≤ pool.recycled.length + 1 ∧
      (pool.closed = true → (pool.giveBack buffer).recycled = pool.recycled) ∧
      (pool.giveBack buffer).free + (pool.giveBack buffer).granted.length =
        pool.free + pool.granted.length + 1 ∧
      (pool.giveBack buffer).asking = pool.asking ∧
      (pool.giveBack buffer).waiting = pool.waiting.tail := by
  unfold giveBack
  split
  · simp [permits_release]
  · next hKept =>
    rw [permits_release, asking_release, waiting_release, recycled_release, closed_release]
    exact ⟨rfl, Nat.le_refl _, fun hClosed => absurd (.inr hClosed) hKept, rfl, rfl, rfl⟩

/-! ### The balance -/

/-- The accounts of a pool of so many permits: each is free, given to somebody, or has become a
buffer; and no buffer is kept for which there is no permit. Who was given a permit, or stands in the
queue for one, is there once, and waits for a buffer still. -/
structure Balanced (pool : Pool) (size : Nat) (claims : List (Option Claim)) : Prop where
  permits : pool.free + pool.granted.length + lent claims = size
  buffers : pool.recycled.length + lent claims ≤ size
  closed : pool.closed = true → pool.recycled = [] ∧ pool.waiting = []
  distinct : pool.asking.Nodup
  asked : ∀ id ∈ pool.asking, claims[id]? = some (some .waits)

namespace Balanced

variable {size : Nat} {claims last : List (Option Claim)} {claim later : Option Claim}

/-- What changes for one who does not ask any more is nothing to those who do. -/
theorem asked_set {asking : List SessionId}
    (hAsked : ∀ other ∈ asking, claims[other]? = some (some .waits)) (hId : id ∉ asking) :
    ∀ other ∈ asking, (claims.set id later)[other]? = some (some .waits) := by
  intro other hOther
  have hNe : id ≠ other := by
    rintro rfl
    exact hId hOther
  rw [List.getElem?_set_ne hNe]
  exact hAsked other hOther

theorem turns (hBalanced : pool.Balanced size claims) (hClaim : claims[id]? = some claim)
    (hTurn : ClaimTurn id pool claim next later) : next.Balanced size (claims.set id later) := by
  have hLent := lent_set hClaim later
  have hErased : ∀ other ∈ pool.asking.erase id, (claims.set id later)[other]? =
      some (some .waits) :=
    asked_set (fun other hOther => hBalanced.asked other (List.mem_of_mem_erase hOther))
      hBalanced.distinct.not_mem_erase
  obtain ⟨hPermits, hBuffers, hClosed, hDistinct, hAsked⟩ := hBalanced
  -- Who does not wait has not asked, or has collected already.
  have hOthers : claim ≠ some .waits → ∀ other ∈ pool.asking,
      (claims.set id later)[other]? = some (some .waits) := by
    refine fun hNot => asked_set hAsked fun hMem => hNot ?_
    exact Option.some_inj.1 (hClaim.symm.trans (hAsked id hMem))
  cases hTurn with
  | rests =>
      obtain ⟨hId, rfl⟩ := List.getElem?_eq_some_iff.1 hClaim
      rw [List.set_getElem_self hId]
      exact ⟨hPermits, hBuffers, hClosed, hDistinct, hAsked⟩
  | asks =>
      obtain ⟨hId, -⟩ := List.getElem?_eq_some_iff.1 hClaim
      have hNew : id ∉ pool.asking := by
        intro hMem
        cases hClaim.symm.trans (hAsked id hMem)
      have hSame : lent (claims.set id (some .waits)) = lent claims := hLent
      rcases pool.request_cases id with hNone | ⟨-, hOpen, hKept, hSum, hPerm⟩
      · rw [hNone]
        exact ⟨hSame ▸ hPermits, hSame ▸ hBuffers, hClosed, hDistinct, asked_set hAsked hNew⟩
      · refine ⟨by omega, by rw [hKept]; omega, fun hShut => ?_,
          hPerm.nodup_iff.2 (List.nodup_cons.2 ⟨hNew, hDistinct⟩), fun other hOther => ?_⟩
        · cases hOpen.symm.trans hShut
        · rcases List.mem_cons.1 (hPerm.mem_iff.1 hOther) with rfl | hOld
          · exact List.getElem?_set_self hId
          · exact asked_set hAsked hNew other hOld
  | collects hCollect =>
      obtain ⟨hOpen, hGranted, -, rfl⟩ := collect_cases hCollect
      have hMore : lent (claims.set id (some (.has { capacity := _ }))) = lent claims + 1 := hLent
      have hLength := List.length_erase_of_mem hGranted
      have hPos := List.length_pos_of_mem hGranted
      have hAsking : (pool.granted.erase id ++ pool.waiting) = pool.asking.erase id :=
        (List.erase_append_left _ hGranted).symm
      refine ⟨by simp only; omega, ?_, fun hShut => ?_, ?_, ?_⟩
      · simp only [List.length_tail]
        omega
      · cases hOpen.symm.trans hShut
      · rw [asking, hAsking]
        exact hDistinct.erase id
      · rw [asking, hAsking]
        exact hErased
  | withdraws =>
      obtain ⟨hShut, hKept, hSum, hNone⟩ := pool.withdraw_cases id
      have hSame : lent (claims.set id none) = lent claims := hLent
      refine ⟨by omega, by rw [hKept]; omega, fun hLater => ?_, ?_, ?_⟩
      · obtain ⟨hRecycled, hWaiting⟩ := hClosed (hShut.symm.trans hLater)
        exact ⟨hKept.trans hRecycled, hNone hWaiting⟩
      · rw [asking_withdraw]
        exact hDistinct.erase id
      · rw [asking_withdraw]
        exact hErased
  | fills buffer pieces =>
      have hSame : lent (claims.set id (some (.has (buffer.appendAll pieces)))) = lent claims :=
        Nat.add_right_cancel hLent
      exact ⟨hSame ▸ hPermits, hSame ▸ hBuffers, hClosed, hDistinct, hOthers nofun⟩
  | returns buffer =>
      obtain ⟨hShut, hKept, hSame, hSum, hAsking, hWaiting⟩ := pool.giveBack_cases buffer
      have hLess : lent (claims.set id none) + 1 = lent claims := hLent
      refine ⟨by omega, by omega, fun hLater => ?_, hAsking ▸ hDistinct, hAsking ▸ hOthers nofun⟩
      obtain ⟨hRecycled, hNone⟩ := hClosed (hShut.symm.trans hLater)
      rw [hSame (hShut.symm.trans hLater), hWaiting, hNone]
      exact ⟨hRecycled, rfl⟩

theorem turn (hBalanced : pool.Balanced size claims) (hTurn : PoolTurn claims pool last next) :
    next.Balanced size last := by
  cases hTurn with
  | still => exact hBalanced
  | begins =>
      have hSame : lent (claims ++ [none]) = lent claims := by
        simp [lent, List.countP_append]
      refine ⟨hSame ▸ hBalanced.permits, hSame ▸ hBalanced.buffers, hBalanced.closed,
        hBalanced.distinct, fun id hId => ?_⟩
      have hAsked := hBalanced.asked id hId
      rwa [List.getElem?_append_left (List.getElem?_eq_some_iff.1 hAsked).1]
  | turns id hClaim hTurn => exact hBalanced.turns hClaim hTurn
  | closes =>
      have hSub : pool.close.asking.Sublist pool.asking := by
        simp [asking, close]
      refine ⟨hBalanced.permits, ?_, fun _ => ⟨rfl, rfl⟩, hBalanced.distinct.sublist hSub,
        fun id hId => hBalanced.asked id (hSub.subset hId)⟩
      exact Nat.le_trans (Nat.add_le_add_right (Nat.zero_le _) _) hBalanced.buffers

/-- Before anybody has come. -/
theorem ofSize (size bufferCapacity retainLimit : Nat) :
    (Pool.ofSize size bufferCapacity retainLimit).Balanced size [] :=
  ⟨rfl, Nat.zero_le _, nofun, .nil, nofun⟩

end Balanced

end Pool

/-- A buffer that a session comes to have is empty, and comes from a pool that is open. -/
theorem PoolTurn.hands_out {claims last : List (Option Claim)} {pool next : Pool}
    (hTurn : PoolTurn claims pool last next) {id : SessionId} {buffer : Buffer}
    (hBefore : ∀ old, claims[id]? ≠ some (some (.has old)))
    (hAfter : last[id]? = some (some (.has buffer))) :
    buffer.bytes = [] ∧ pool.closed = false := by
  cases hTurn with
  | still | closes => exact absurd hAfter (hBefore buffer)
  | begins =>
      rcases Nat.lt_or_ge id claims.length with hOld | hNew
      · rw [List.getElem?_append_left hOld] at hAfter
        exact absurd hAfter (hBefore buffer)
      · rw [List.getElem?_append_right hNew, List.getElem?_singleton] at hAfter
        split at hAfter <;> cases hAfter
  | turns other hClaim hClaimTurn =>
      by_cases hId : id = other
      · subst hId
        rw [List.getElem?_set_self (List.getElem?_eq_some_iff.1 hClaim).1,
          Option.some_inj] at hAfter
        subst hAfter
        cases hClaimTurn with
        | rests | fills => exact absurd hClaim (hBefore _)
        | collects hCollect =>
            obtain ⟨hOpen, -, hEmpty, -⟩ := Pool.collect_cases hCollect
            exact ⟨hEmpty, hOpen⟩
      · rw [List.getElem?_set_ne (Ne.symm hId)] at hAfter
        exact absurd hAfter (hBefore buffer)

namespace Cluster

variable {cluster : Cluster} {site : Nat} {found : Site} {size : Nat}

/-- Whatever is done, the accounts of a pool are right. -/
theorem balanced_enactAll (hPlaced : cluster.Placed) (hFound : cluster.sites[site]? = some found)
    (hBalanced : found.pool.Balanced size (cluster.claims site)) (deeds : List Deed) :
    ∃ next, (cluster.enactAll deeds).sites[site]? = some next ∧
      next.pool.Balanced size ((cluster.enactAll deeds).claims site) := by
  induction deeds generalizing cluster found with
  | nil => exact ⟨found, hFound, hBalanced⟩
  | cons deed rest ih =>
      obtain ⟨pool, cache, hNext, hTurn⟩ := poolTurn_enact hPlaced hFound deed
      exact ih (hPlaced.enact deed) hNext (hBalanced.turn hTurn)

end Cluster

end ConfigExchange
