import ConfigExchange.Proofs.Cluster.Trace

/-! The order in which writers and closers are given the lock of a connection, and the order of the
frames on its stream. Whoever has the lock or waits for it is in one line, which only grows at its
end; so frames are in the order of the line. -/
namespace ConfigExchange

open Cluster

/-! ### Who asked for the lock -/

theorem WriterTurn.last_ne_starting {id : SessionId} {connection next : Connection}
    {stage last : WriterStage} (hTurn : WriterTurn id connection stage next last) :
    last ≠ .starting := by
  cases hTurn with
  | leaves _ hLast | quits _ hLast => cases hLast <;> nofun
  | _ => nofun

theorem ClosingTurn.last_ne_starting {id : SessionId} {connection next : Connection}
    {stage last : ClosingStage} (hTurn : ClosingTurn id connection stage next last) :
    last ≠ .starting := by
  cases hTurn <;> nofun

/-- Someone has come far enough to have asked for the lock of a connection. -/
def Cluster.HasAsked (cluster : Cluster) (index : Nat) (id : SessionId) : Prop :=
  (∃ stage, cluster.stage? index id = some stage ∧ stage ≠ .starting) ∨
    ∃ stage, cluster.closer? index id = some stage ∧ stage ≠ .starting

section Turn

variable {index : Nat} {before after : Cluster} {connection next : Connection}
  {subject : Option SessionId} {id : SessionId}

theorem Cluster.Turn.hasAsked (hTurn : Turn index before after connection subject next)
    (hAsked : before.HasAsked index id) : after.HasAsked index id := by
  rcases hAsked with ⟨stage, hStage, hBegun⟩ | ⟨stage, hStage, hBegun⟩
  · obtain ⟨last, hLast, rfl | ⟨-, hWriter⟩⟩ := hTurn.stage_after hStage
    · exact .inl ⟨_, hLast, hBegun⟩
    · exact .inl ⟨last, hLast, hWriter.last_ne_starting⟩
  · obtain ⟨last, hLast, rfl | ⟨-, hClosing⟩⟩ := hTurn.closer_after hStage
    · exact .inr ⟨_, hLast, hBegun⟩
    · exact .inr ⟨last, hLast, hClosing.last_ne_starting⟩

/-- What a turn makes of the lock: someone asks for it for the first time, or gives it up, or his
place in the queue. -/
inductive LockTurn (before after : SessionId → Prop) (lock : Lock) : Lock → Prop where
  | still : LockTurn before after lock lock
  | asks (id : SessionId) (hBefore : ¬ before id) (hAfter : after id) :
      LockTurn before after lock (lock.request id)
  | leaves (id : SessionId) : LockTurn before after lock (lock.withdraw id)

theorem Cluster.Turn.lock (hTurn : Turn index before after connection subject next) :
    LockTurn (before.HasAsked index) (after.HasAsked index) connection.lock next.lock := by
  cases hTurn with
  | still | arrives | comes | unstalls => exact .still
  | closes id hNone hStages hClosing hStage hClosers =>
      cases hClosing with
      | late | quits => exact .still
      | shuts | leaves => exact .leaves id
      | marks =>
          refine .asks id ?_ (.inr ⟨.queued, by rw [hClosers, Function.update_self], nofun⟩)
          rintro (⟨found, hFound, -⟩ | ⟨found, hFound, hBegun⟩)
          · cases hNone.symm.trans hFound
          · cases hStage.symm.trans hFound
            exact hBegun rfl
  | writes id hStage hStages hWriter =>
      cases hWriter with
      | asks | gets | fills | flushes | sends | quits => exact .still
      | completes | breaks | leaves => exact .leaves id
      | queues _ alarm =>
          refine .asks id ?_ (.inl ⟨.queued alarm, by rw [hStages, Function.update_self], nofun⟩)
          rintro (⟨found, hFound, hBegun⟩ | ⟨found, hFound, -⟩)
          · cases hStage.symm.trans hFound
            exact hBegun rfl
          · cases (closer?_of_stage? hStage).symm.trans hFound

end Turn

/-! ### The line -/

/-- Who was given the lock, where `before` became `after`. -/
def Lock.given (before after : Lock) : List SessionId :=
  if after.holder = before.holder then [] else after.holder.toList

theorem Lock.given_same (before : Lock) (queue : List SessionId) :
    before.given ⟨before.holder, queue⟩ = [] :=
  if_pos rfl

theorem Lock.given_some {before : Lock} {id : SessionId} {queue : List SessionId}
    (h : before.holder ≠ some id) : before.given ⟨some id, queue⟩ = [id] :=
  if_neg (Ne.symm h)

theorem Lock.given_none (before : Lock) (queue : List SessionId) :
    before.given ⟨none, queue⟩ = [] :=
  ite_self _

/-- Those who have had the lock, and then those who wait for it, stand in one line, and the writers
of the log come in the order of the line. -/
structure InLine (lock : Lock) (grants writers : List SessionId) (asked : SessionId → Prop) :
    Prop where
  idle : lock.holder = none → lock.queue = []
  nodup : (grants ++ lock.queue).Nodup
  asked : ∀ id ∈ grants ++ lock.queue, asked id
  ordered : writers.Sublist grants
  /-- The holder was given the lock last. Unless he writes, the log ends before him. -/
  holder : ∀ id, lock.holder = some id → ∃ earlier, grants = earlier ++ [id] ∧
    (id ∉ writers → writers.Sublist earlier)

namespace InLine

variable {lock next : Lock} {grants writers : List SessionId} {before after : SessionId → Prop}
  {id : SessionId}

/-- The holder may begin to write. -/
theorem begins (hLine : InLine lock grants writers before) (hHolder : lock.holder = some id)
    (hNew : id ∉ writers) : InLine lock grants (writers ++ [id]) before := by
  obtain ⟨earlier, rfl, hOrdered⟩ := hLine.holder id hHolder
  refine ⟨hLine.idle, hLine.nodup, hLine.asked, (hOrdered hNew).append_right [id], ?_⟩
  intro other hOther
  cases hHolder.symm.trans hOther
  exact ⟨earlier, rfl, fun hNot => absurd (by simp) hNot⟩

/-- The next in the line is given the lock. -/
theorem given_next {rest : List SessionId} (hNodup : (grants ++ id :: rest).Nodup)
    (hAsked : ∀ other ∈ grants ++ id :: rest, before other) (hOrdered : writers.Sublist grants) :
    InLine ⟨some id, rest⟩ (grants ++ [id]) writers before := by
  rw [List.append_cons] at hNodup hAsked
  refine ⟨fun hNone => ?_, hNodup, hAsked, hOrdered.trans (List.sublist_append_left _ _),
    fun other hOther => ?_⟩
  · cases hNone
  · cases hOther
    exact ⟨grants, rfl, fun _ => hOrdered⟩

/-- Someone asks for the lock, and comes to the end of the line. -/
theorem asks (hLine : InLine lock grants writers before) (hBefore : ¬ before id)
    (hAfter : after id) (hSame : ∀ other, before other → after other) :
    InLine (lock.request id) (grants ++ lock.given (lock.request id)) writers after := by
  have hNew : id ∉ grants ++ lock.queue := fun hMem => hBefore (hLine.asked id hMem)
  have hNodup : (grants ++ (lock.queue ++ [id])).Nodup := by
    rw [← List.append_assoc]
    refine List.nodup_append.2 ⟨hLine.nodup, by simp, ?_⟩
    rintro other hOther last hLast rfl
    cases List.mem_singleton.1 hLast
    exact hNew hOther
  have hAsked : ∀ other ∈ grants ++ (lock.queue ++ [id]), after other := by
    intro other hOther
    rw [← List.append_assoc] at hOther
    rcases List.mem_append.1 hOther with hOld | hLast
    · exact hSame other (hLine.asked other hOld)
    · cases List.mem_singleton.1 hLast
      exact hAfter
  cases hHolder : lock.holder with
  | none =>
      have hGiven : lock.given { lock with holder := some id } = [id] :=
        Lock.given_some (by simp [hHolder])
      rw [Lock.request_of_free hHolder, hGiven]
      rw [hLine.idle hHolder] at hNodup hAsked ⊢
      exact given_next hNodup hAsked hLine.ordered
  | some holder =>
      rw [Lock.request_of_held hHolder, Lock.given_same, List.append_nil]
      refine ⟨fun hNone => ?_, hNodup, hAsked, hLine.ordered, hLine.holder⟩
      cases hHolder.symm.trans hNone

/-- Someone gives the lock up, which the next in the line is given then, or leaves the line. -/
theorem leaves (hLine : InLine lock grants writers before)
    (hSame : ∀ other, before other → after other) :
    InLine (lock.withdraw id) (grants ++ lock.given (lock.withdraw id)) writers after := by
  have hNodup := hLine.nodup
  have hAsked : ∀ other ∈ grants ++ lock.queue, after other := fun other hOther =>
    hSame other (hLine.asked other hOther)
  by_cases hHolder : lock.holder = some id
  · obtain ⟨earlier, hGrants, -⟩ := hLine.holder id hHolder
    rw [Lock.withdraw_of_holder hHolder, Lock.release]
    cases hQueue : lock.queue with
    | nil =>
        rw [hQueue] at hNodup hAsked
        rw [List.head?_nil, List.tail_nil, Lock.given_none, List.append_nil]
        refine ⟨fun _ => rfl, hNodup, hAsked, hLine.ordered, fun other hOther => ?_⟩
        cases hOther
    | cons first rest =>
        rw [hQueue] at hNodup hAsked
        -- The holder is in the line already, so he is not the next one too.
        have hNe : lock.holder ≠ some first := by
          rw [hHolder, Ne, Option.some_inj]
          rintro rfl
          exact (List.nodup_append.1 hNodup).2.2 id (by simp [hGrants]) id (by simp) rfl
        rw [List.head?_cons, List.tail_cons, Lock.given_some hNe]
        exact given_next hNodup hAsked hLine.ordered
  · have hSublist : (grants ++ lock.queue.erase id).Sublist (grants ++ lock.queue) :=
      List.erase_sublist.append_left grants
    rw [Lock.withdraw_of_ne hHolder, Lock.given_same, List.append_nil]
    refine ⟨fun hNone => ?_, hNodup.sublist hSublist,
      fun other hOther => hAsked other (hSublist.subset hOther), hLine.ordered, hLine.holder⟩
    rw [hLine.idle hNone]
    rfl

theorem turn (hLine : InLine lock grants writers before) (hTurn : LockTurn before after lock next)
    (hSame : ∀ other, before other → after other) :
    InLine next (grants ++ lock.given next) writers after := by
  cases hTurn with
  | still =>
      rw [Lock.given_same, List.append_nil]
      exact ⟨hLine.idle, hLine.nodup, fun id hId => hSame id (hLine.asked id hId), hLine.ordered,
        hLine.holder⟩
  | asks id hBefore hAfter => exact hLine.asks hBefore hAfter hSame
  | leaves id => exact hLine.leaves hSame

end InLine

/-- Who is given the lock of a connection in an event. -/
def Cluster.grantsIn (index : Nat) (cluster : Cluster) (event : Event) : List SessionId :=
  match cluster.connections[index]?, (cluster.perform event).connections[index]? with
  | some connection, some next => connection.lock.given next.lock
  | _, _ => []

/-- Those who are given the lock of a connection along a run, one after the other. -/
def Cluster.grants (index : Nat) (cluster : Cluster) (events : List Event) : List SessionId :=
  cluster.gather (grantsIn index) events

namespace Watch

variable {index : Nat} {start : Cluster}

theorem run_concat (watch : Watch) (events : List Event) (event : Event) :
    watch.run index (events ++ [event]) = (watch.run index events).perform index event :=
  List.foldl_append

/-- The line of a connection, and the writers of its log. -/
theorem inLine_run (hPristine : Pristine index start) (events : List Event) :
    ∃ connection, (start.run events).connections[index]? = some connection ∧
      InLine connection.lock (start.grants index events)
        ((run index ⟨start, []⟩ events).log.map (·.writer))
        ((start.run events).HasAsked index) := by
  induction events using List.reverseRecOn with
  | nil =>
      obtain ⟨connection, script, hConnection, -, hLock, -⟩ := hPristine.connection
      refine ⟨connection, hConnection, ?_⟩
      rw [hLock]
      exact ⟨fun _ => rfl, .nil, nofun, .slnil, nofun⟩
  | append_singleton events event ih =>
      obtain ⟨connection, hConnection, hLine⟩ := ih
      obtain ⟨other, socket, hSound⟩ := hPristine.sound_run events
      cases hConnection.symm.trans (cluster_run ⟨start, []⟩ events ▸ hSound.present)
      obtain ⟨next, hNext, hTurn⟩ := turn_perform hConnection event
      have hGrants : start.grants index (events ++ [event]) =
          start.grants index events ++ connection.lock.given next.lock := by
        rw [Cluster.grants, gather_concat]
        simp [grantsIn, hConnection, hNext, Cluster.grants]
      have hSame : ∀ id, (start.run events).HasAsked index id →
          ((start.run events).perform event).HasAsked index id := fun id => hTurn.hasAsked
      rw [hGrants, Cluster.run_concat, run_concat]
      refine ⟨next, hNext, ?_⟩
      rcases writers_perform index (run index ⟨start, []⟩ events) event with
        hLog | ⟨id, buffer, _, _, -, hStage, -, hLog⟩
      · rw [hLog]
        exact hLine.turn hTurn.lock hSame
      · rw [hLog]
        refine (hLine.begins (hSound.held id _ hStage rfl) ?_).turn hTurn.lock hSame
        apply hSound.ledger.not_mem
        intro stage hFound
        cases hStage.symm.trans hFound
        rfl

end Watch

end ConfigExchange
