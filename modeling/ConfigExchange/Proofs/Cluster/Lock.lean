import ConfigExchange.Proofs.Cluster.Run

/-! The lock of a connection. A writer that has come far enough to write has the lock, so no two
have. -/
namespace ConfigExchange

namespace Lock

variable {lock : Lock} {holder id : SessionId}

theorem request_of_free (h : lock.holder = none) (id : SessionId) :
    lock.request id = { lock with holder := some id } :=
  if_pos (by simp [h])

theorem request_of_held (h : lock.holder = some holder) (id : SessionId) :
    lock.request id = { lock with queue := lock.queue ++ [id] } :=
  if_neg (by simp [h])

theorem withdraw_of_holder (h : lock.holder = some id) : lock.withdraw id = lock.release :=
  if_pos h

theorem withdraw_of_ne (h : lock.holder ≠ some id) :
    lock.withdraw id = { lock with queue := lock.queue.erase id } :=
  if_neg h

theorem holder_request (h : lock.holder = some holder) (id : SessionId) :
    (lock.request id).holder = some holder := by
  rw [request_of_held h]
  exact h

theorem holder_withdraw (h : lock.holder = some holder) (hNe : holder ≠ id) :
    (lock.withdraw id).holder = some holder := by
  rw [withdraw_of_ne fun hEq => hNe (Option.some_inj.1 (h.symm.trans hEq))]
  exact h

end Lock

/-- A writer that has its connection to itself has the lock. -/
def Held (stages : SessionId → Option WriterStage) (lock : Lock) : Prop :=
  ∀ id stage, stages id = some stage → stage.holds = true → lock.holder = some id

/-- No turn of a writer takes the lock from another one. -/
theorem WriterTurn.holder {id other : SessionId} {connection next : Connection}
    {stage last : WriterStage} (hTurn : WriterTurn id connection stage next last)
    (hOther : connection.lock.holder = some other) (hNe : other ≠ id) :
    next.lock.holder = some other := by
  cases hTurn with
  | queues => exact Lock.holder_request hOther id
  | completes | breaks | leaves => exact Lock.holder_withdraw hOther hNe
  | asks | gets | fills | flushes | sends | quits => exact hOther

/-- A writer that comes to have its connection to itself has the lock. -/
theorem WriterTurn.holds {id : SessionId} {connection next : Connection}
    {stage last : WriterStage} (hTurn : WriterTurn id connection stage next last)
    (hStage : stage.holds = true → connection.lock.holder = some id) (hLast : last.holds = true) :
    next.lock.holder = some id := by
  cases hTurn with
  | asks hLock => exact hLock
  | gets | fills | flushes | sends => exact hStage rfl
  | queues | completes | breaks => cases hLast
  | leaves _ hFailed => cases hFailed <;> cases hLast
  | quits _ hFailed => cases hFailed <;> cases hLast

theorem Held.arrives {stages : SessionId → Option WriterStage} {lock : Lock} {id : SessionId}
    (hHeld : Held stages lock) : Held (Function.update stages id (some .starting)) lock := by
  intro other found hFound hHolds
  by_cases hId : other = id
  · rw [hId, Function.update_self] at hFound
    cases hFound
    cases hHolds
  · rw [Function.update_of_ne hId] at hFound
    exact hHeld other found hFound hHolds

theorem Held.writes {stages : SessionId → Option WriterStage} {id : SessionId}
    {connection next : Connection} {stage last : WriterStage} (hHeld : Held stages connection.lock)
    (hStage : stages id = some stage) (hTurn : WriterTurn id connection stage next last) :
    Held (Function.update stages id (some last)) next.lock := by
  intro other found hFound hHolds
  by_cases hId : other = id
  · rw [hId, Function.update_self] at hFound
    cases hFound
    rw [hId]
    exact hTurn.holds (hHeld id stage hStage) hHolds
  · rw [Function.update_of_ne hId] at hFound
    exact hTurn.holder (hHeld other found hFound hHolds) hId

/-- A closer is no writer, and takes the lock from none. -/
theorem Held.closes {stages : SessionId → Option WriterStage} {id : SessionId}
    {connection next : Connection} {stage last : ClosingStage} (hHeld : Held stages connection.lock)
    (hCloser : stages id = none) (hTurn : ClosingTurn id connection stage next last) :
    Held stages next.lock := by
  intro other found hFound hHolds
  have hHolder := hHeld other found hFound hHolds
  have hNe : other ≠ id := by
    rintro rfl
    cases hCloser.symm.trans hFound
  cases hTurn with
  | late | quits => exact hHolder
  | marks => exact Lock.holder_request hHolder id
  | shuts | leaves => exact Lock.holder_withdraw hHolder hNe

theorem Held.turn {index : Nat} {before after : Cluster} {connection next : Connection}
    {subject : Option SessionId} (hHeld : Held (before.stage? index) connection.lock)
    (hTurn : Cluster.Turn index before after connection subject next) :
    Held (after.stage? index) next.lock := by
  cases hTurn with
  | still hStages | comes _ _ hStages | unstalls _ hStages =>
      rw [hStages]
      exact hHeld
  | arrives id hNew hStages =>
      rw [hStages]
      exact hHeld.arrives
  | closes id hCloser hStages hClosing =>
      rw [hStages]
      exact hHeld.closes hCloser hClosing
  | writes id hStage hStages hWriter =>
      rw [hStages]
      exact hHeld.writes hStage hWriter

/-- Two writers that have their connection to themselves are one. -/
theorem Held.alone {stages : SessionId → Option WriterStage} {lock : Lock}
    (hHeld : Held stages lock)
    {id other : SessionId} {stage found : WriterStage} (hStage : stages id = some stage)
    (hHolds : stage.holds = true) (hFound : stages other = some found)
    (hOther : found.holds = true) : other = id :=
  Option.some_inj.1 ((hHeld other found hFound hOther).symm.trans (hHeld id stage hStage hHolds))

end ConfigExchange
