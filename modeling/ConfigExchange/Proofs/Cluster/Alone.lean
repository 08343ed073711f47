import ConfigExchange.Exchange.Transmission
import ConfigExchange.Proofs.Cluster.Basic
import ConfigExchange.Proofs.Frame

/-! Sending undisturbed. A transmission on a connection that nobody else uses, with a buffer to
spare, waits for nothing but its stream. What it does then is put down as an errand, which knows
neither locks nor pools nor sessions. -/
namespace ConfigExchange

/-! ### Pools -/

/-- A pool that nobody waits for. -/
structure Pool.Calm (pool : Pool) : Prop where
  opened : pool.closed = false
  waiting : pool.waiting = []

namespace Pool.Calm

variable {pool : Pool} {id : SessionId}

theorem request (hCalm : pool.Calm) (hFree : 0 < pool.free) (id : SessionId) :
    (pool.request id).Calm ∧ id ∈ (pool.request id).granted := by
  obtain ⟨free, hFree⟩ := Nat.exists_eq_succ_of_ne_zero (Nat.ne_of_gt hFree)
  simp only [Pool.request, hCalm.opened, hFree, Bool.false_eq_true, if_false]
  exact ⟨⟨rfl, hCalm.waiting⟩, by simp⟩

theorem collect (hCalm : pool.Calm) (hGranted : id ∈ pool.granted) :
    ∃ capacity later, pool.collect id = (.buffer { capacity }, later) ∧ later.Calm := by
  simp only [Pool.collect, hCalm.opened, hGranted, Bool.false_eq_true, if_false, if_true]
  rw [EmptyBuffer.eq]
  exact ⟨_, _, rfl, rfl, hCalm.waiting⟩

theorem release (hCalm : pool.Calm) : pool.release.Calm ∧ 0 < pool.release.free := by
  simp only [Pool.release, hCalm.waiting]
  exact ⟨⟨hCalm.opened, rfl⟩, Nat.succ_pos _⟩

theorem giveBack (hCalm : pool.Calm) (buffer : Buffer) :
    (pool.giveBack buffer).Calm ∧ 0 < (pool.giveBack buffer).free := by
  unfold Pool.giveBack
  split
  · exact hCalm.release
  · have hKept : Calm { pool with recycled := ⟨buffer.clear, rfl⟩ :: pool.recycled } :=
      ⟨hCalm.opened, hCalm.waiting⟩
    exact hKept.release

end Pool.Calm

namespace Cluster

/-! ### A connection and its site -/

/-- A connection of a cluster and its site: who has the lock, and what is so of the pool. Nobody
waits for either. -/
structure Keeps (cluster : Cluster) (index : Nat) (connection : Connection) (site : Site)
    (holder : Option SessionId) (ready : Pool → Prop) : Prop where
  here : cluster.connections[index]? = some { connection with lock := { holder } }
  opened : connection.closed = false
  place : ∃ pool, cluster.sites[connection.site]? = some { site with pool } ∧ pool.Calm ∧ ready pool

/-- Nobody uses the connection, and a buffer can be had. -/
abbrev Idle (cluster : Cluster) (index : Nat) (connection : Connection) (site : Site) : Prop :=
  cluster.Keeps index connection site none (0 < ·.free)

/-- What a writer on a connection leaves alone: the other connections, the other sites, the writers
on other connections, and the sources. -/
structure Spares (before after : Cluster) (index place : Nat) : Prop where
  connections : ∀ other, other ≠ index → after.connections[other]? = before.connections[other]?
  sites : ∀ other, other ≠ place → after.sites[other]? = before.sites[other]?
  stages : ∀ other id, other ≠ index → after.stage? other id = before.stage? other id
  sources : after.sources = before.sources

theorem Spares.refl (cluster : Cluster) (index place : Nat) : cluster.Spares cluster index place :=
  ⟨fun _ _ => rfl, fun _ _ => rfl, fun _ _ _ => rfl, rfl⟩

theorem Spares.trans {first second third : Cluster} {index place : Nat}
    (hFirst : first.Spares second index place) (hSecond : second.Spares third index place) :
    first.Spares third index place where
  connections := fun other hOther =>
    (hSecond.connections other hOther).trans (hFirst.connections other hOther)
  sites := fun other hOther => (hSecond.sites other hOther).trans (hFirst.sites other hOther)
  stages := fun other id hOther =>
    (hSecond.stages other id hOther).trans (hFirst.stages other id hOther)
  sources := hSecond.sources.trans hFirst.sources

variable {cluster after : Cluster} {index : Nat} {connection next : Connection} {site : Site}
  {holder owner : Option SessionId} {ready readyNext : Pool → Prop} {id : SessionId}
  {stage last : WriterStage}

/-- A change of one writer, of its connection and of the pool it takes its buffers from. -/
theorem Keeps.turn {channels : Channels}
    (hKeeps : cluster.Keeps index connection site holder ready)
    (hStage : cluster.stage? index id = some stage) (change : Pool → Pool)
    (hChange : ∀ pool, pool.Calm → ready pool → (change pool).Calm ∧ readyNext (change pool))
    (hChanges : Changes cluster after index { next with lock := { holder := owner } } id
      (.writer index last))
    (hSites : after.sites = cluster.sites.modify connection.site fun site =>
      { site with pool := change site.pool })
    (hSources : after.sources = cluster.sources) (hChannels : after.channels = channels)
    (hSame : next.site = connection.site) (hOpened : next.closed = false) :
    after.Keeps index next site owner readyNext ∧ after.stage? index id = some last ∧
      cluster.Spares after index connection.site ∧ after.channels = channels := by
  obtain ⟨hId, -⟩ := List.getElem?_eq_some_iff.1 (stage?_eq_some.1 hStage)
  obtain ⟨pool, hPool, hCalm, hReady⟩ := hKeeps.place
  obtain ⟨hCalmNext, hReadyNext⟩ := hChange pool hCalm hReady
  refine ⟨⟨hChanges.here, hOpened, change pool, ?_, hCalmNext, hReadyNext⟩, ?_,
    ⟨hChanges.elsewhere, fun other hOther => ?_, fun other found hOther => ?_, hSources⟩, hChannels⟩
  · rw [hSame, hSites, List.getElem?_modify_eq, hPool]
    rfl
  · rw [stage?_eq_some, hChanges.sessions]
    exact List.getElem?_set_self hId
  · rw [hSites, List.getElem?_modify_ne _ _ (Ne.symm hOther)]
  · by_cases hFound : found = id
    · subst hFound
      simp [stage?, hChanges.sessions, List.getElem?_set_self hId, stage?_eq_some.1 hStage,
        Session.stageOn?, Ne.symm hOther]
    · simp [stage?, hChanges.sessions, List.getElem?_set_ne (Ne.symm hFound)]

theorem Keeps.congr (hKeeps : cluster.Keeps index connection site holder ready)
    (hConnection : after.connections[index]? = cluster.connections[index]?)
    (hSite : after.sites[connection.site]? = cluster.sites[connection.site]?) :
    after.Keeps index connection site holder ready :=
  ⟨hConnection.trans hKeeps.here, hKeeps.opened, hSite.symm ▸ hKeeps.place⟩

/-- A writer's step is worked out from its connection and the pool of its site. -/
theorem Keeps.step_eq (hKeeps : cluster.Keeps index connection site holder ready)
    (hStage : cluster.stage? index id = some stage) :
    ∃ pool, pool.Calm ∧ ready pool ∧
      cluster.step id = cluster.stepWriter id index { connection with lock := { holder } } pool
        stage := by
  obtain ⟨pool, hPool, hCalm, hReady⟩ := hKeeps.place
  refine ⟨pool, hCalm, hReady, ?_⟩
  simp [step, stage?_eq_some.1 hStage, hKeeps.here, pool?, hPool]

theorem Keeps.modifyPoolOf_eq (hKeeps : cluster.Keeps index connection site holder ready)
    (change : Pool → Pool) :
    cluster.modifyPoolOf index change = cluster.modifyPool connection.site change := by
  simp [modifyPoolOf, hKeeps.here]

/-! ### From step to step -/

/-- A writer starts. -/
theorem Keeps.openWriter (hKeeps : cluster.Keeps index connection site holder ready) :
    (cluster.openWriter index).2.Keeps index connection site holder ready ∧
      (cluster.openWriter index).2.stage? index (cluster.openWriter index).1 = some .starting ∧
      cluster.Spares (cluster.openWriter index).2 index connection.site := by
  unfold Cluster.openWriter begin
  refine ⟨⟨hKeeps.here, hKeeps.opened, hKeeps.place⟩, ?_, fun _ _ => rfl, fun _ _ => rfl,
    fun other found hOther => ?_, rfl⟩
  · rw [stage?_eq_some]
    simp
  · simp only [stage?]
    rcases Nat.lt_trichotomy found cluster.sessions.length with hOld | hNew | hBeyond
    · rw [List.getElem?_append_left hOld]
    · subst hNew
      simp [Session.stageOn?, Ne.symm hOther]
    · rw [List.getElem?_eq_none (by simpa using Nat.succ_le_of_lt hBeyond),
        List.getElem?_eq_none (Nat.le_of_lt hBeyond)]

/-- It gets the lock at once. -/
theorem Keeps.step_starting (hIdle : cluster.Idle index connection site)
    (hStage : cluster.stage? index id = some .starting) :
    ∃ after alarm, cluster.step id = some after ∧
      after.Keeps index connection site (some id) (0 < ·.free) ∧
      after.stage? index id = some (.queued alarm) ∧
      cluster.Spares after index connection.site ∧ after.channels = cluster.channels := by
  obtain ⟨pool, hCalm, hReady, hStep⟩ := hIdle.step_eq hStage
  simp only [stepWriter, hIdle.opened, Bool.false_eq_true, if_false] at hStep
  refine ⟨_, (cluster.setAlarm connection.acquireTimeout).1, hStep, ?_⟩
  refine hIdle.turn hStage (fun pool => pool) (fun _ hCalm hReady => ⟨hCalm, hReady⟩) ?_
    (List.modify_id _ _).symm rfl rfl rfl hIdle.opened
  exact Changes.of_modify (fun found => { found with lock := found.lock.request id }) hIdle.here
    rfl rfl rfl

/-- It is granted a buffer at once. -/
theorem Keeps.step_queued {alarm : Alarm}
    (hKeeps : cluster.Keeps index connection site (some id) (0 < ·.free))
    (hStage : cluster.stage? index id = some (.queued alarm)) :
    ∃ after limit next, cluster.step id = some after ∧
      after.Keeps index connection site (some id) (id ∈ ·.granted) ∧
      after.stage? index id = some (.awaiting limit next) ∧
      cluster.Spares after index connection.site ∧ after.channels = cluster.channels := by
  obtain ⟨pool, hCalm, hReady, hStep⟩ := hKeeps.step_eq hStage
  simp only [stepWriter, hKeeps.opened, Bool.false_eq_true, if_false, if_true] at hStep
  have hAlarm : (cluster.setAlarm (alarm.moment - cluster.now)).2.Keeps index connection site
      (some id) (0 < ·.free) := ⟨hKeeps.here, hKeeps.opened, hKeeps.place⟩
  rw [hAlarm.modifyPoolOf_eq] at hStep
  refine ⟨_, alarm.moment - cluster.now, (cluster.setAlarm (alarm.moment - cluster.now)).1, hStep, ?_⟩
  exact hKeeps.turn hStage (·.request id) (fun _ hCalm hReady => hCalm.request hReady id)
    (Changes.of_same hKeeps.here rfl rfl) rfl rfl rfl rfl hKeeps.opened

/-- It collects the buffer. -/
theorem Keeps.step_awaiting {limit : Micros} {alarm : Alarm}
    (hKeeps : cluster.Keeps index connection site (some id) (id ∈ ·.granted))
    (hStage : cluster.stage? index id = some (.awaiting limit alarm)) :
    ∃ after capacity, cluster.step id = some after ∧
      after.Keeps index connection site (some id) (fun _ => True) ∧
      after.stage? index id = some (.opened { capacity }) ∧
      cluster.Spares after index connection.site ∧ after.channels = cluster.channels := by
  obtain ⟨pool, hCalm, hReady, hStep⟩ := hKeeps.step_eq hStage
  obtain ⟨capacity, later, hCollect, hLater⟩ := hCalm.collect hReady
  simp only [stepWriter, hCollect] at hStep
  rw [hKeeps.modifyPoolOf_eq] at hStep
  refine ⟨_, capacity, hStep, ?_⟩
  exact hKeeps.turn hStage (fun _ => later) (fun _ _ _ => ⟨hLater, trivial⟩)
    (Changes.of_same hKeeps.here rfl rfl) rfl rfl rfl rfl hKeeps.opened

/-- Its buffer is filled. -/
theorem Keeps.append {buffer : Buffer}
    (hKeeps : cluster.Keeps index connection site (some id) (fun _ => True))
    (hStage : cluster.stage? index id = some (.opened buffer)) (pieces : List Bytes) :
    (cluster.append id pieces).Keeps index connection site (some id) (fun _ => True) ∧
      (cluster.append id pieces).stage? index id = some (.opened (buffer.appendAll pieces)) ∧
      cluster.Spares (cluster.append id pieces) index connection.site ∧
      (cluster.append id pieces).channels = cluster.channels := by
  have hAppend : cluster.append id pieces =
      cluster.setSession id (.writer index (.opened (buffer.appendAll pieces))) := by
    simp only [Cluster.append, stage?_eq_some.1 hStage]
  rw [hAppend]
  exact hKeeps.turn hStage (fun pool => pool) (fun _ hCalm hReady => ⟨hCalm, hReady⟩)
    (Changes.of_same hKeeps.here rfl rfl) (List.modify_id _ _).symm rfl rfl rfl hKeeps.opened

/-- A call on its stream. -/
theorem Keeps.call (hKeeps : cluster.Keeps index connection site holder ready) (outlet : Outlet)
    (channels : Channels) :
    let after := ({ cluster with channels } : Cluster).modifyConnection index fun connection =>
      { connection with outlet }
    after.Keeps index { connection with outlet } site holder ready ∧
      cluster.Spares after index connection.site ∧ after.channels = channels := by
  intro after
  refine ⟨⟨?_, hKeeps.opened, hKeeps.place⟩, ⟨fun other hOther => ?_, fun _ _ => rfl,
    fun _ _ _ => rfl, rfl⟩, rfl⟩
  · simp [after, modifyConnection, hKeeps.here]
  · exact List.getElem?_modify_ne _ _ (Ne.symm hOther)

/-- It ends, and gives back its buffer and the lock. -/
theorem Keeps.conclude {buffer : Buffer}
    (hKeeps : cluster.Keeps index connection site (some id) (fun _ => True))
    (hStage : cluster.stage? index id = some stage)
    (hBuffer : (Session.writer index stage).buffer? = some buffer) (last : WriterStage) :
    let after := cluster.conclude id (.writer index stage) (.writer index last)
    after.Idle index connection site ∧ after.stage? index id = some last ∧
      cluster.Spares after index connection.site ∧ after.channels = cluster.channels := by
  intro after
  have hAfter : after = ((cluster.modifyPool connection.site (·.giveBack buffer)).modifyLock index
      (·.withdraw id)).setSession id (.writer index last) := by
    show (cluster.giveUp id (.writer index stage)).setSession id _ = _
    rw [← hKeeps.modifyPoolOf_eq]
    cases stage with
    | opened found | sending found rest =>
        cases hBuffer
        rfl
    | _ => cases hBuffer
  rw [hAfter]
  refine hKeeps.turn hStage (·.giveBack buffer) (fun _ hCalm _ => hCalm.giveBack buffer) ?_
    rfl rfl rfl rfl hKeeps.opened
  refine Changes.of_modify (fun found => { found with lock := found.lock.withdraw id }) hKeeps.here
    rfl ?_ rfl
  simp [Lock.withdraw, Lock.release]

/-- It is given up before it has sent anything. -/
theorem Keeps.drop {buffer : Buffer}
    (hKeeps : cluster.Keeps index connection site (some id) (fun _ => True))
    (hStage : cluster.stage? index id = some (.opened buffer)) :
    (cluster.drop id).Idle index connection site ∧
      cluster.Spares (cluster.drop id) index connection.site ∧
      (cluster.drop id).channels = cluster.channels := by
  have hDrop : cluster.drop id =
      cluster.conclude id (.writer index (.opened buffer)) (.writer index .dropped) := by
    simp only [Cluster.drop, stage?_eq_some.1 hStage]
  rw [hDrop]
  obtain ⟨hIdle, -, hSpares, hChannels⟩ := hKeeps.conclude hStage rfl .dropped
  exact ⟨hIdle, hSpares, hChannels⟩

/-- A frame that is too large is not sent. -/
theorem Keeps.flush_of_lt {buffer : Buffer}
    (hKeeps : cluster.Keeps index connection site (some id) (fun _ => True))
    (hStage : cluster.stage? index id = some (.opened buffer))
    (hSize : connection.maxMessageSize < buffer.bytes.length) :
    (cluster.flush id).Idle index connection site ∧
      (cluster.flush id).stage? index id = some (.finished (.error
        (.messageTooLarge buffer.bytes.length connection.maxMessageSize))) ∧
      cluster.Spares (cluster.flush id) index connection.site ∧
      (cluster.flush id).channels = cluster.channels := by
  simp only [Cluster.flush_eq, stage?_eq_some.1 hStage, hKeeps.here, hSize, if_true]
  exact hKeeps.conclude hStage rfl _

/-- Any other one is about to be sent. -/
theorem Keeps.flush_of_le {buffer : Buffer}
    (hKeeps : cluster.Keeps index connection site (some id) (fun _ => True))
    (hStage : cluster.stage? index id = some (.opened buffer))
    (hSize : buffer.bytes.length ≤ connection.maxMessageSize) :
    (cluster.flush id).Keeps index connection site (some id) (fun _ => True) ∧
      (cluster.flush id).stage? index id = some (.sending buffer (.start buffer.bytes)) ∧
      cluster.Spares (cluster.flush id) index connection.site ∧
      (cluster.flush id).channels = cluster.channels := by
  simp only [Cluster.flush_eq, stage?_eq_some.1 hStage, hKeeps.here, Nat.not_lt.2 hSize, if_false]
  exact hKeeps.turn hStage (fun pool => pool) (fun _ hCalm hReady => ⟨hCalm, hReady⟩)
    (Changes.of_same hKeeps.here rfl rfl) (List.modify_id _ _).symm rfl rfl rfl hKeeps.opened

/-- As long as its call has not come to an end, a writer waits. -/
theorem Keeps.step_of_pending {buffer : Buffer} {rest : FrameSending}
    (hKeeps : cluster.Keeps index connection site (some id) (fun _ => True))
    (hStage : cluster.stage? index id = some (.sending buffer rest))
    (hCall : (connection.outlet.call cluster.channels rest.next).1 = .pending) :
    cluster.step id = none := by
  obtain ⟨pool, -, -, hStep⟩ := hKeeps.step_eq hStage
  rw [hStep]
  simp only [stepWriter]
  revert hCall
  generalize connection.outlet.call cluster.channels rest.next = called
  obtain ⟨answer, outlet, channels⟩ := called
  rintro ⟨⟩
  rfl

/-- Bytes are taken. -/
theorem Keeps.step_of_accepted {buffer : Buffer} {rest : FrameSending} {count : Nat}
    {outlet : Outlet} {channels : Channels}
    (hKeeps : cluster.Keeps index connection site (some id) (fun _ => True))
    (hStage : cluster.stage? index id = some (.sending buffer rest))
    (hCall : connection.outlet.call cluster.channels rest.next =
      (.accepted count, outlet, channels))
    (hSome : count ≠ 0) :
    ∃ after, cluster.step id = some after ∧
      after.Keeps index { connection with outlet } site (some id) (fun _ => True) ∧
      after.stage? index id = some (.sending buffer (rest.advance count)) ∧
      cluster.Spares after index connection.site ∧ after.channels = channels := by
  obtain ⟨pool, -, -, hStep⟩ := hKeeps.step_eq hStage
  obtain ⟨more, rfl⟩ := Nat.exists_eq_succ_of_ne_zero hSome
  simp only [stepWriter, hCall, FrameSending.resume] at hStep
  refine ⟨_, hStep, ?_⟩
  refine hKeeps.turn hStage (fun pool => pool) (fun _ hCalm hReady => ⟨hCalm, hReady⟩) ?_
    (List.modify_id _ _).symm rfl rfl rfl hKeeps.opened
  exact Changes.of_modify (fun found => { found with outlet }) hKeeps.here rfl rfl rfl

/-- The stream is flushed, and all is done. -/
theorem Keeps.step_of_done {buffer : Buffer} {rest : FrameSending} {outlet : Outlet}
    {channels : Channels}
    (hKeeps : cluster.Keeps index connection site (some id) (fun _ => True))
    (hStage : cluster.stage? index id = some (.sending buffer rest))
    (hCall : connection.outlet.call cluster.channels rest.next = (.done, outlet, channels)) :
    ∃ after, cluster.step id = some after ∧ after.Idle index { connection with outlet } site ∧
      after.stage? index id = some (.finished (.ok ())) ∧
      cluster.Spares after index connection.site ∧ after.channels = channels := by
  obtain ⟨pool, -, -, hStep⟩ := hKeeps.step_eq hStage
  simp only [stepWriter, hCall, FrameSending.resume] at hStep
  obtain ⟨hCalled, hSparesCall, hChannelsCall⟩ := hKeeps.call outlet channels
  obtain ⟨hIdle, hFinished, hSpares, hChannels⟩ := hCalled.conclude hStage rfl (.finished (.ok ()))
  exact ⟨_, hStep, hIdle, hFinished, hSparesCall.trans hSpares, hChannels.trans hChannelsCall⟩

end Cluster

end ConfigExchange
