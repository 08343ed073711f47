import ConfigExchange.Cluster.Progress

/-! What the changes of a cluster leave alone. Connections and sessions are changed one at a time,
and pools, sites and alarms without either. -/
namespace ConfigExchange

/-- Whether a writer that has come this far has its connection to itself. -/
def WriterStage.holds : WriterStage → Bool
  | awaiting .. | opened _ | sending .. => true
  | _ => false

/-- Whether a writer that has come this far has the lock of its connection or waits for it. -/
def WriterStage.usesLock : WriterStage → Bool
  | queued _ => true
  | stage => stage.holds

/-- How a writer ends without success. -/
inductive WriterStage.Failed : WriterStage → Prop where
  | dropped : Failed dropped
  | finished (error : ConnectionError) : Failed (finished (.error error))

/-- The connection whose lock a session has or waits for. -/
def Session.lockUsed? : Session → Option Nat
  | writer connection stage => if stage.usesLock then some connection else none
  | closing connection .queued => some connection
  | _ => none

/-- How far a session has come as a writer on a connection, if it is one. -/
def Session.stageOn? (index : Nat) : Session → Option WriterStage
  | writer connection stage => if connection = index then some stage else none
  | _ => none

/-- How far a session has come as one who closes a connection, if it is one. -/
def Session.closerOn? (index : Nat) : Session → Option ClosingStage
  | closing connection stage => if connection = index then some stage else none
  | _ => none

/-- The connection without the claim of a session on its lock. -/
def Connection.release (connection : Connection) (id : SessionId) : Connection :=
  { connection with lock := connection.lock.withdraw id }

namespace Cluster

variable (cluster : Cluster)

/-- How far the writer of that name on a connection has come. -/
def stage? (index : Nat) (id : SessionId) : Option WriterStage :=
  cluster.sessions[id]?.bind (·.stageOn? index)

/-- How far the one of that name who closes a connection has come. -/
def closer? (index : Nat) (id : SessionId) : Option ClosingStage :=
  cluster.sessions[id]?.bind (·.closerOn? index)

theorem stage?_eq_some {cluster : Cluster} {index : Nat} {id : SessionId} {stage : WriterStage} :
    cluster.stage? index id = some stage ↔ cluster.sessions[id]? = some (.writer index stage) := by
  unfold stage?
  rcases cluster.sessions[id]? with _ | ⟨place, found⟩ | ⟨place, found⟩ | ⟨site, found⟩
  · simp
  · by_cases hPlace : place = index <;> simp [Session.stageOn?, hPlace]
  · simp [Session.stageOn?]
  · simp [Session.stageOn?]

theorem closer?_eq_some {cluster : Cluster} {index : Nat} {id : SessionId} {stage : ClosingStage} :
    cluster.closer? index id = some stage ↔
      cluster.sessions[id]? = some (.closing index stage) := by
  unfold closer?
  rcases cluster.sessions[id]? with _ | ⟨place, found⟩ | ⟨place, found⟩ | ⟨site, found⟩
  · simp
  · simp [Session.closerOn?]
  · by_cases hPlace : place = index <;> simp [Session.closerOn?, hPlace]
  · simp [Session.closerOn?]

/-- A writer closes nothing. -/
theorem closer?_of_stage? {cluster : Cluster} {index : Nat} {id : SessionId} {stage : WriterStage}
    (hStage : cluster.stage? index id = some stage) : cluster.closer? index id = none := by
  rw [closer?, stage?_eq_some.1 hStage]
  rfl

@[simp] theorem connections_modifyPool (site : Nat) (change : Pool → Pool) :
    (cluster.modifyPool site change).connections = cluster.connections := rfl

@[simp] theorem sessions_modifyPool (site : Nat) (change : Pool → Pool) :
    (cluster.modifyPool site change).sessions = cluster.sessions := rfl

@[simp] theorem connections_modifyPoolOf (index : Nat) (change : Pool → Pool) :
    (cluster.modifyPoolOf index change).connections = cluster.connections := by
  unfold modifyPoolOf
  split <;> rfl

@[simp] theorem sessions_modifyPoolOf (index : Nat) (change : Pool → Pool) :
    (cluster.modifyPoolOf index change).sessions = cluster.sessions := by
  unfold modifyPoolOf
  split <;> rfl

@[simp] theorem connections_setSession (id : SessionId) (session : Session) :
    (cluster.setSession id session).connections = cluster.connections := rfl

@[simp] theorem sessions_setSession (id : SessionId) (session : Session) :
    (cluster.setSession id session).sessions = cluster.sessions.set id session := rfl

@[simp] theorem connections_setAlarm (span : Micros) :
    (cluster.setAlarm span).2.connections = cluster.connections := rfl

@[simp] theorem sessions_setAlarm (span : Micros) :
    (cluster.setAlarm span).2.sessions = cluster.sessions := rfl

@[simp] theorem connections_modifyConnection (index : Nat) (change : Connection → Connection) :
    (cluster.modifyConnection index change).connections = cluster.connections.modify index change :=
  rfl

@[simp] theorem sessions_modifyConnection (index : Nat) (change : Connection → Connection) :
    (cluster.modifyConnection index change).sessions = cluster.sessions := rfl

@[simp] theorem connections_modifyLock (index : Nat) (change : Lock → Lock) :
    (cluster.modifyLock index change).connections = cluster.connections.modify index
      fun connection => { connection with lock := change connection.lock } := rfl

@[simp] theorem sessions_modifyLock (index : Nat) (change : Lock → Lock) :
    (cluster.modifyLock index change).sessions = cluster.sessions := rfl

@[simp] theorem channels_modifyPoolOf (index : Nat) (change : Pool → Pool) :
    (cluster.modifyPoolOf index change).channels = cluster.channels := by
  unfold modifyPoolOf
  split <;> rfl

/-! ### What a session gives up -/

@[simp] theorem channels_giveUp (id : SessionId) (session : Session) :
    (cluster.giveUp id session).channels = cluster.channels := by
  unfold giveUp
  split <;> simp [modifyLock, modifyConnection, modifyPool, modifySite]

@[simp] theorem sessions_giveUp (id : SessionId) (session : Session) :
    (cluster.giveUp id session).sessions = cluster.sessions := by
  unfold giveUp
  split <;> simp

/-- A session that ends gives up the lock it has or waits for, and no other. -/
theorem connections_giveUp (id : SessionId) (session : Session) :
    (cluster.giveUp id session).connections =
      match session.lockUsed? with
      | some index => cluster.connections.modify index (·.release id)
      | none => cluster.connections := by
  cases session with
  | writer connection stage =>
      cases stage <;> simp [giveUp, Session.lockUsed?, WriterStage.usesLock, WriterStage.holds,
        Connection.release]
  | closing connection stage =>
      cases stage <;> simp [giveUp, Session.lockUsed?, Connection.release]
  | loan site stage => cases stage <;> simp [giveUp, Session.lockUsed?]

@[simp] theorem sessions_conclude (id : SessionId) (old last : Session) :
    (cluster.conclude id old last).sessions = cluster.sessions.set id last := by
  simp [conclude]

/-- Where no assertion is checked, a buffer that is not too large begins to be sent. -/
theorem flush_eq (id : SessionId) :
    cluster.flush id =
      match cluster.sessions[id]? with
      | some (.writer index (.opened buffer)) =>
        match cluster.connections[index]? with
        | none => cluster
        | some connection =>
          if connection.maxMessageSize < buffer.bytes.length then
            cluster.conclude id (.writer index (.opened buffer))
              (.writer index (.finished (.error
                (.messageTooLarge buffer.bytes.length connection.maxMessageSize))))
          else cluster.setSession id (.writer index (.sending buffer (.start buffer.bytes)))
      | _ => cluster := by
  unfold flush flushIn
  cases cluster.sessions[id]? with
  | none => rfl
  | some session =>
      cases session with
      | closing | loan => rfl
      | writer index stage =>
          cases stage with
          | opened buffer =>
              dsimp only
              cases cluster.connections[index]? with
              | none => rfl
              | some connection =>
                  by_cases hLarge : connection.maxMessageSize < buffer.bytes.length
                  · simp only [if_pos hLarge]
                  · simp only [if_neg hLarge]
                    rfl
          | starting | queued | awaiting | sending | finished | dropped => rfl

/-- A writer that is given up ends without success. -/
theorem stage?_drop {cluster : Cluster} {index : Nat} {id : SessionId} {stage : WriterStage}
    (hStage : cluster.stage? index id = some stage) :
    (cluster.drop id).stage? index id = some .dropped := by
  have hSession := stage?_eq_some.1 hStage
  obtain ⟨hId, -⟩ := List.getElem?_eq_some_iff.1 hSession
  rw [stage?_eq_some, drop]
  simp only [hSession, sessions_conclude]
  exact List.getElem?_set_self hId

theorem connection_conclude_of_ne {id : SessionId} {old last : Session} {index : Nat}
    (hOld : old.lockUsed? ≠ some index) :
    (cluster.conclude id old last).connections[index]? = cluster.connections[index]? := by
  show (cluster.giveUp id old).connections[index]? = _
  rw [connections_giveUp]
  cases hUsed : old.lockUsed? with
  | none => rfl
  | some used =>
      refine List.getElem?_modify_ne _ _ fun hEq => hOld ?_
      rw [hUsed, hEq]

/-! ### What a step changes -/

/-- Of the connections and sessions, only one of each changes. -/
structure Changes (before after : Cluster) (index : Nat) (connection : Connection)
    (id : SessionId) (session : Session) : Prop where
  here : after.connections[index]? = some connection
  elsewhere : ∀ other, other ≠ index → after.connections[other]? = before.connections[other]?
  sessions : after.sessions = before.sessions.set id session

/-- A change of one place of a list shows only there. -/
theorem Changes.of_modify {before after : Cluster} {index : Nat} {connection next : Connection}
    {id : SessionId} {session : Session} (change : Connection → Connection)
    (hConnection : before.connections[index]? = some connection)
    (hConnections : after.connections = before.connections.modify index change)
    (hNext : change connection = next)
    (hSessions : after.sessions = before.sessions.set id session) :
    Changes before after index next id session where
  here := by
    rw [hConnections, List.getElem?_modify_eq, hConnection, ← hNext]
    rfl
  elsewhere := fun other hNe => by rw [hConnections, List.getElem?_modify_ne _ _ hNe.symm]
  sessions := hSessions

theorem Changes.of_same {before after : Cluster} {index : Nat} {connection : Connection}
    {id : SessionId} {session : Session}
    (hConnection : before.connections[index]? = some connection)
    (hConnections : after.connections = before.connections)
    (hSessions : after.sessions = before.sessions.set id session) :
    Changes before after index connection id session where
  here := by rw [hConnections, hConnection]
  elsewhere := fun other _ => by rw [hConnections]
  sessions := hSessions

end Cluster

end ConfigExchange
