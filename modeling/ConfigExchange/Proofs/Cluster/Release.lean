import ConfigExchange.Proofs.Cluster.Shares

/-! What is free again. Whoever has the lock of a connection, or waits for it, is at a stage in
which it is used, and whoever has asked a pool for a buffer is at one in which it waits for it. So a
writer that is over has neither, and waits for neither. -/
namespace ConfigExchange

open Cluster

namespace Lock

variable {lock : Lock} {id : SessionId}

/-- Who has the lock, and then those who wait for it. -/
def users (lock : Lock) : List SessionId := lock.holder.toList ++ lock.queue

theorem users_request (hIdle : lock.holder = none → lock.queue = []) (id : SessionId) :
    (lock.request id).users = lock.users ++ [id] := by
  cases hHolder : lock.holder with
  | none =>
      rw [request_of_free hHolder]
      simp [users, hHolder, hIdle hHolder]
  | some holder =>
      rw [request_of_held hHolder]
      simp [users, hHolder]

theorem users_withdraw (hIdle : lock.holder = none → lock.queue = []) (id : SessionId) :
    (lock.withdraw id).users = lock.users.erase id := by
  by_cases hHolder : lock.holder = some id
  · rw [withdraw_of_holder hHolder]
    simp only [users, release, hHolder, Option.toList_some, List.singleton_append,
      List.erase_cons_head]
    cases lock.queue <;> rfl
  · rw [withdraw_of_ne hHolder]
    cases hOther : lock.holder with
    | none => simp [users, hOther, hIdle hOther]
    | some holder =>
        have hNe : (holder == id) = false := by
          simpa [hOther] using hHolder
        simp [users, hOther, hNe]

end Lock

theorem InLine.nodup_users {lock : Lock} {grants writers : List SessionId}
    {asked : SessionId → Prop} (hLine : InLine lock grants writers asked) : lock.users.Nodup := by
  cases hHolder : lock.holder with
  | none => simp [Lock.users, hHolder, hLine.idle hHolder]
  | some holder =>
      obtain ⟨earlier, hGrants, -⟩ := hLine.holder holder hHolder
      refine hLine.nodup.sublist ?_
      rw [Lock.users, hHolder, hGrants]
      exact (List.sublist_append_right earlier [holder]).append_right lock.queue

/-- A writer that is over has nothing, and waits for nothing. -/
theorem WriterStage.nothing_of_isOver {stage : WriterStage} (hOver : stage.isOver = true) :
    stage.usesLock = false ∧ stage.claim? = none := by
  cases stage with
  | finished | dropped => exact ⟨rfl, rfl⟩
  | starting | queued | awaiting | opened | sending => cases hOver

namespace Cluster

variable {cluster before after : Cluster} {index : Nat} {id : SessionId}
  {connection next : Connection}

/-- Someone has come so far that he uses the lock of a connection, and no further. -/
def UsesLock (cluster : Cluster) (index : Nat) (id : SessionId) : Prop :=
  (∃ stage, cluster.stage? index id = some stage ∧ stage.usesLock = true) ∨
    cluster.closer? index id = some .queued

/-- Only those use a lock who have come to use it. -/
def Enlisted (cluster : Cluster) : Prop :=
  ∀ index connection, cluster.connections[index]? = some connection →
    ∀ id ∈ connection.lock.users, cluster.UsesLock index id

theorem UsesLock.stages {other : SessionId} (hUses : before.UsesLock index id) (hNe : id ≠ other)
    {last : WriterStage}
    (hStages : after.stage? index = Function.update (before.stage? index) other (some last))
    (hClosers : after.closer? index = before.closer? index) : after.UsesLock index id := by
  rcases hUses with ⟨stage, hStage, hUsed⟩ | hCloser
  · exact .inl ⟨stage, by rw [hStages, Function.update_of_ne hNe, hStage], hUsed⟩
  · exact .inr (by rw [hClosers, hCloser])

theorem UsesLock.closers {other : SessionId} (hUses : before.UsesLock index id) (hNe : id ≠ other)
    {last : ClosingStage} (hStages : after.stage? index = before.stage? index)
    (hClosers : after.closer? index = Function.update (before.closer? index) other (some last)) :
    after.UsesLock index id := by
  rcases hUses with ⟨stage, hStage, hUsed⟩ | hCloser
  · exact .inl ⟨stage, by rw [hStages, hStage], hUsed⟩
  · exact .inr (by rw [hClosers, Function.update_of_ne hNe, hCloser])

/-- A turn that leaves the lock alone is not one of those who use it, or leaves them using it. -/
theorem usesLock_still {users : List SessionId} {other : SessionId}
    (hUsers : ∀ id ∈ users, before.UsesLock index id)
    (hKeeps : ∀ id, id ≠ other → before.UsesLock index id → after.UsesLock index id)
    (hOther : before.UsesLock index other → after.UsesLock index other) :
    ∀ id ∈ users, after.UsesLock index id := by
  intro id hId
  by_cases hEq : id = other
  · subst hEq
    exact hOther (hUsers id hId)
  · exact hKeeps id hEq (hUsers id hId)

/-- Whoever asks for the lock has come to use it. -/
theorem usesLock_request {lock : Lock} {other : SessionId}
    (hIdle : lock.holder = none → lock.queue = [])
    (hUsers : ∀ id ∈ lock.users, before.UsesLock index id)
    (hKeeps : ∀ id, id ≠ other → before.UsesLock index id → after.UsesLock index id)
    (hOther : after.UsesLock index other) :
    ∀ id ∈ (lock.request other).users, after.UsesLock index id := by
  intro id hId
  rw [Lock.users_request hIdle] at hId
  by_cases hEq : id = other
  · exact hEq ▸ hOther
  · rcases List.mem_append.1 hId with hOld | hLast
    · exact hKeeps id hEq (hUsers id hOld)
    · exact absurd (List.mem_singleton.1 hLast) hEq

/-- Whoever gives the lock up, or his place in the queue, is not among its users any more. -/
theorem usesLock_withdraw {lock : Lock} {other : SessionId}
    (hIdle : lock.holder = none → lock.queue = []) (hNodup : lock.users.Nodup)
    (hUsers : ∀ id ∈ lock.users, before.UsesLock index id)
    (hKeeps : ∀ id, id ≠ other → before.UsesLock index id → after.UsesLock index id) :
    ∀ id ∈ (lock.withdraw other).users, after.UsesLock index id := by
  intro id hId
  rw [Lock.users_withdraw hIdle, hNodup.mem_erase_iff] at hId
  exact hKeeps id hId.1 (hUsers id hId.2)

theorem Turn.enlisted {subject : Option SessionId}
    (hTurn : Turn index before after connection subject next)
    (hIdle : connection.lock.holder = none → connection.lock.queue = [])
    (hNodup : connection.lock.users.Nodup)
    (hUsers : ∀ id ∈ connection.lock.users, before.UsesLock index id) :
    ∀ id ∈ next.lock.users, after.UsesLock index id := by
  cases hTurn with
  | still hStages hClosers | unstalls _ hStages hClosers =>
      intro id hId
      have hUses := hUsers id hId
      rwa [UsesLock, hStages, hClosers]
  | arrives other hNew hStages hCloser hClosers =>
      refine usesLock_still hUsers (fun id hNe hUses => hUses.stages hNe hStages hClosers) ?_
      rintro (⟨stage, hStage, -⟩ | hQueued)
      · cases hNew.symm.trans hStage
      · cases hCloser.symm.trans hQueued
  | comes other hNew hStages hCloser hClosers =>
      refine usesLock_still hUsers (fun id hNe hUses => hUses.closers hNe hStages hClosers) ?_
      rintro (⟨stage, hStage, -⟩ | hQueued)
      · cases hNew.symm.trans hStage
      · cases hCloser.symm.trans hQueued
  | closes other hNone hStages hClosing hStage hClosers =>
      have hKeeps (id : SessionId) (hNe : id ≠ other) (hUses : before.UsesLock index id) :
          after.UsesLock index id := hUses.closers hNe hStages hClosers
      cases hClosing with
      | shuts | leaves => exact usesLock_withdraw hIdle hNodup hUsers hKeeps
      | marks =>
          exact usesLock_request hIdle hUsers hKeeps
            (.inr (by rw [hClosers, Function.update_self]))
      | late =>
          refine usesLock_still hUsers hKeeps ?_
          rintro (⟨stage, hFound, -⟩ | hQueued)
          · cases hNone.symm.trans hFound
          · cases hStage.symm.trans hQueued
      | quits hIdleStage =>
          refine usesLock_still hUsers hKeeps ?_
          rintro (⟨stage, hFound, -⟩ | hQueued)
          · cases hNone.symm.trans hFound
          · cases hStage.symm.trans hQueued
            cases hIdleStage
  | @writes other _ stage last hStage hStages hWriter hClosers =>
      have hKeeps (id : SessionId) (hNe : id ≠ other) (hUses : before.UsesLock index id) :
          after.UsesLock index id := hUses.stages hNe hStages hClosers
      have hLater (hUsed : last.usesLock = true) : after.UsesLock index other :=
        .inl ⟨last, by rw [hStages, Function.update_self], hUsed⟩
      cases hWriter with
      | completes | breaks | leaves => exact usesLock_withdraw hIdle hNodup hUsers hKeeps
      | queues => exact usesLock_request hIdle hUsers hKeeps (hLater rfl)
      | asks | gets | fills | flushes | sends =>
          exact usesLock_still hUsers hKeeps fun _ => hLater rfl
      | quits hNot =>
          refine usesLock_still hUsers hKeeps ?_
          rintro (⟨found, hFound, hUsed⟩ | hQueued)
          · cases hStage.symm.trans hFound
            cases hNot.symm.trans hUsed
          · cases (closer?_of_stage? hStage).symm.trans hQueued

theorem Enlisted.enact (hEnlisted : cluster.Enlisted) (hOrderly : cluster.Orderly) (deed : Deed) :
    (cluster.enact deed).Enlisted := by
  intro index next hNext
  cases hConnection : cluster.connections[index]? with
  | some connection =>
      obtain ⟨-, grants, hLine⟩ := hOrderly index connection hConnection
      obtain ⟨later, hLater, hTurn⟩ := turn_enact hConnection deed
      cases hNext.symm.trans hLater
      exact hTurn.enlisted hLine.idle hLine.nodup_users (hEnlisted index connection hConnection)
  | none =>
      rcases enact_cases cluster deed with hSame | ⟨event, -, hEvent⟩
      · rw [hSame, hConnection] at hNext
        cases hNext
      · rw [hEvent] at hNext
        rw [lock_perform_of_none hConnection hNext]
        exact fun id hId => absurd hId List.not_mem_nil

theorem Enlisted.enactAll (hEnlisted : cluster.Enlisted) (hOrderly : cluster.Orderly)
    (hPlaced : cluster.Placed) (deeds : List Deed) : (cluster.enactAll deeds).Enlisted := by
  induction deeds generalizing cluster with
  | nil => exact hEnlisted
  | cons deed rest ih =>
      exact ih (hEnlisted.enact hOrderly deed) (hOrderly.enact hPlaced deed) (hPlaced.enact deed)

theorem enlisted_ofMembers (members : List (Member × Settings)) : (ofMembers members).Enlisted :=
  nofun

/-- Someone has nothing of a connection, nor of the pool of its site, and waits for neither. -/
structure Released (cluster : Cluster) (index : Nat) (id : SessionId) : Prop where
  lock : ∀ connection, cluster.connections[index]? = some connection → id ∉ connection.lock.users
  pool : ∀ connection site, cluster.connections[index]? = some connection →
    cluster.sites[connection.site]? = some site →
      id ∉ site.pool.asking ∧ ∀ buffer,
        (cluster.claims connection.site)[id]? ≠ some (some (.has buffer))

/-- A writer that is over has given everything back. -/
theorem released_of_isOver {stage : WriterStage} (hEnlisted : cluster.Enlisted)
    (hStage : cluster.stage? index id = some stage) (hOver : stage.isOver = true)
    (hBalanced : ∀ connection site, cluster.connections[index]? = some connection →
      cluster.sites[connection.site]? = some site →
        ∃ size, site.pool.Balanced size (cluster.claims connection.site)) :
    cluster.Released index id where
  lock := by
    intro connection hConnection hId
    rcases hEnlisted index connection hConnection id hId with ⟨found, hFound, hUsed⟩ | hQueued
    · cases hStage.symm.trans hFound
      cases (WriterStage.nothing_of_isOver hOver).1.symm.trans hUsed
    · cases (closer?_of_stage? hStage).symm.trans hQueued
  pool := by
    intro connection site hConnection hSite
    have hHome : cluster.siteOf? (.writer index stage) = some connection.site := by
      rw [siteOf?, hConnection]
      rfl
    have hClaim : (cluster.claims connection.site)[id]? = some none := by
      rw [claims, List.getElem?_map, stage?_eq_some.1 hStage, Option.map_some, claimOn,
        if_pos hHome]
      exact congrArg some (WriterStage.nothing_of_isOver hOver).2
    obtain ⟨size, hPool⟩ := hBalanced connection site hConnection hSite
    refine ⟨fun hAsking => ?_, fun buffer hHas => ?_⟩
    · cases hClaim.symm.trans (hPool.asked id hAsking)
    · cases hClaim.symm.trans hHas

end Cluster

end ConfigExchange
