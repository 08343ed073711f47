import ConfigExchange.Proofs.Cluster.Turn
import Mathlib.Logic.Function.Basic

/-! Runs of a cluster: whatever its users do, and whatever happens around them, in any order. Seen
from one connection, every event is a turn of one of its users, or leaves it alone. -/
namespace ConfigExchange

namespace Cluster

/-- What happens in a cluster. The last kind stands for everything that is neither a connection nor
a session: time passes, and sites, sources, channels and alarms change in any way. -/
inductive Event where
  | connect (site : Nat) (remote : Member) (version : Version) (outlet : Outlet)
  | openWriter (connection : Nat)
  | close (connection : Nat)
  | borrow (site : Nat) (limit : Micros)
  | step (id : SessionId)
  | append (id : SessionId) (pieces : List Bytes)
  | flush (id : SessionId)
  | drop (id : SessionId)
  | unstall (connection : Nat)
  | elsewhere (now : Micros) (sites : List Site) (sources : List SourceRecord)
      (channels : Channels) (alarms : Nat)

/-- The session that goes on in an event. -/
def Event.subject? : Event → Option SessionId
  | step id | append id _ | flush id | drop id => some id
  | _ => none

/-- A session that has to wait does not change. -/
def perform (cluster : Cluster) : Event → Cluster
  | .connect site remote version outlet => (cluster.connect site remote version outlet).2
  | .openWriter connection => (cluster.openWriter connection).2
  | .close connection => (cluster.close connection).2
  | .borrow site limit => (cluster.borrow site limit).2
  | .step id => (cluster.step id).getD cluster
  | .append id pieces => cluster.append id pieces
  | .flush id => cluster.flush id
  | .drop id => cluster.drop id
  | .unstall connection => cluster.unstall connection
  | .elsewhere now sites sources channels alarms =>
    { cluster with now, sites, sources, channels, alarms }

def run (cluster : Cluster) (events : List Event) : Cluster := events.foldl perform cluster

/-- What an event is to a connection: `next` is what becomes of it. -/
inductive Turn (index : Nat) (before after : Cluster) (connection : Connection) :
    Option SessionId → Connection → Prop where
  /-- Neither the connection nor anyone on it is concerned. -/
  | still {subject : Option SessionId} (hStages : after.stage? index = before.stage? index)
      (hClosers : after.closer? index = before.closer? index) :
      Turn index before after connection subject connection
  /-- A writer comes in. -/
  | arrives (id : SessionId) (hNew : before.stage? index id = none)
      (hStages : after.stage? index = Function.update (before.stage? index) id (some .starting))
      (hCloser : before.closer? index id = none)
      (hClosers : after.closer? index = before.closer? index) :
      Turn index before after connection none connection
  /-- One who is to close the connection comes in. -/
  | comes (id : SessionId) (hNew : before.stage? index id = none)
      (hStages : after.stage? index = before.stage? index)
      (hCloser : before.closer? index id = none)
      (hClosers : after.closer? index =
        Function.update (before.closer? index) id (some .starting)) :
      Turn index before after connection none connection
  /-- One who closes the connection goes on. -/
  | closes (id : SessionId) {next : Connection} {stage last : ClosingStage}
      (hCloser : before.stage? index id = none)
      (hStages : after.stage? index = before.stage? index)
      (hTurn : ClosingTurn id connection stage next last)
      (hStage : before.closer? index id = some stage)
      (hClosers : after.closer? index = Function.update (before.closer? index) id (some last)) :
      Turn index before after connection (some id) next
  /-- A stalled call may go on. -/
  | unstalls {socket : Socket} (hOutlet : connection.outlet = .socket socket)
      (hStages : after.stage? index = before.stage? index)
      (hClosers : after.closer? index = before.closer? index) :
      Turn index before after connection none { connection with outlet := .socket socket.unstall }
  /-- A writer goes on. -/
  | writes (id : SessionId) {next : Connection} {stage last : WriterStage}
      (hStage : before.stage? index id = some stage)
      (hStages : after.stage? index = Function.update (before.stage? index) id (some last))
      (hTurn : WriterTurn id connection stage next last)
      (hClosers : after.closer? index = before.closer? index) :
      Turn index before after connection (some id) next

variable {before after : Cluster} {index : Nat} {connection : Connection} {id : SessionId}

theorem perform_step_of_some (hStep : before.step id = some after) :
    before.perform (.step id) = after := by
  show (before.step id).getD before = after
  rw [hStep]
  rfl

/-- A session that waits leaves the cluster as it is. -/
theorem perform_step_of_none (hStep : before.step id = none) :
    before.perform (.step id) = before := by
  show (before.step id).getD before = before
  rw [hStep]
  rfl

/-- A changed session shows in its own place only, whatever is seen of sessions. -/
theorem bind_set {α : Type} (view : Session → Option α) {old session : Session}
    (hOld : before.sessions[id]? = some old)
    (hSessions : after.sessions = before.sessions.set id session) :
    (fun other => after.sessions[other]?.bind view) =
      Function.update (fun other => before.sessions[other]?.bind view) id (view session) := by
  funext other
  obtain ⟨hId, -⟩ := List.getElem?_eq_some_iff.1 hOld
  rw [hSessions]
  by_cases hOther : other = id
  · rw [hOther, Function.update_self, List.getElem?_set_self hId]
    rfl
  · rw [Function.update_of_ne hOther, List.getElem?_set_ne (Ne.symm hOther)]

/-- A new session is in a place where nothing was seen. -/
theorem bind_append {α : Type} (view : Session → Option α) {session : Session}
    (hSessions : after.sessions = before.sessions ++ [session]) :
    before.sessions[before.sessions.length]?.bind view = none ∧
      (fun other => after.sessions[other]?.bind view) = Function.update
        (fun other => before.sessions[other]?.bind view) before.sessions.length (view session) := by
  constructor
  · rw [List.getElem?_eq_none (Nat.le_refl _)]
    rfl
  · funext other
    rw [hSessions]
    by_cases hOther : other = before.sessions.length
    · rw [hOther, Function.update_self, List.getElem?_concat_length]
      rfl
    · rw [Function.update_of_ne hOther]
      rcases Nat.lt_or_gt_of_ne hOther with hLess | hMore
      · rw [List.getElem?_append_left hLess]
      · rw [List.getElem?_eq_none (Nat.le_of_lt hMore), List.getElem?_eq_none]
        simpa using Nat.succ_le_of_lt hMore

theorem stage?_set (index : Nat) {old session : Session} (hOld : before.sessions[id]? = some old)
    (hSessions : after.sessions = before.sessions.set id session) :
    after.stage? index = Function.update (before.stage? index) id (session.stageOn? index) :=
  bind_set (·.stageOn? index) hOld hSessions

theorem closer?_set (index : Nat) {old session : Session} (hOld : before.sessions[id]? = some old)
    (hSessions : after.sessions = before.sessions.set id session) :
    after.closer? index = Function.update (before.closer? index) id (session.closerOn? index) :=
  bind_set (·.closerOn? index) hOld hSessions

/-- A writer that was changed is seen as what it has become. -/
theorem stage?_of_set {old : Session} {stage : WriterStage} (hOld : before.sessions[id]? = some old)
    (hSessions : after.sessions = before.sessions.set id (.writer index stage)) :
    after.stage? index id = some stage := by
  rw [stage?_set index hOld hSessions, Function.update_self]
  exact if_pos rfl

theorem closer?_of_set {old : Session} {stage : ClosingStage}
    (hOld : before.sessions[id]? = some old)
    (hSessions : after.sessions = before.sessions.set id (.closing index stage)) :
    after.closer? index id = some stage := by
  rw [closer?_set index hOld hSessions, Function.update_self]
  exact if_pos rfl

theorem stage?_append (index : Nat) {session : Session}
    (hSessions : after.sessions = before.sessions ++ [session]) :
    before.stage? index before.sessions.length = none ∧ after.stage? index =
      Function.update (before.stage? index) before.sessions.length (session.stageOn? index) :=
  bind_append (·.stageOn? index) hSessions

theorem closer?_append (index : Nat) {session : Session}
    (hSessions : after.sessions = before.sessions ++ [session]) :
    before.closer? index before.sessions.length = none ∧ after.closer? index =
      Function.update (before.closer? index) before.sessions.length (session.closerOn? index) :=
  bind_append (·.closerOn? index) hSessions

/-- A changed session of which a connection sees as little as before is nobody there. -/
theorem still_set {subject : Option SessionId} {old session : Session}
    (hOld : before.sessions[id]? = some old)
    (hSessions : after.sessions = before.sessions.set id session)
    (hStage : session.stageOn? index = old.stageOn? index)
    (hCloser : session.closerOn? index = old.closerOn? index) :
    Turn index before after connection subject connection := by
  refine .still ?_ ?_
  · rw [stage?_set index hOld hSessions, hStage, Function.update_eq_self_iff, stage?, hOld]
    rfl
  · rw [closer?_set index hOld hSessions, hCloser, Function.update_eq_self_iff, closer?, hOld]
    rfl

/-- A new session of which a connection sees nothing. -/
theorem still_append {subject : Option SessionId} {session : Session}
    (hSessions : after.sessions = before.sessions ++ [session])
    (hStage : session.stageOn? index = none) (hCloser : session.closerOn? index = none) :
    Turn index before after connection subject connection := by
  obtain ⟨hNoStage, hStages⟩ := stage?_append index hSessions
  obtain ⟨hNoCloser, hClosers⟩ := closer?_append index hSessions
  refine .still ?_ ?_
  · rw [hStages, hStage, Function.update_eq_self_iff, hNoStage]
  · rw [hClosers, hCloser, Function.update_eq_self_iff, hNoCloser]

/-- A turn of a writer, seen from any connection. -/
theorem turn_of_writer {place : Nat} {stage last : WriterStage}
    (hConnection : before.connections[index]? = some connection)
    (hSession : before.sessions[id]? = some (.writer place stage))
    (hSessions : after.sessions = before.sessions.set id (.writer place last))
    (hElsewhere : place ≠ index → after.connections[index]? = before.connections[index]?)
    (hHere : place = index → ∃ next, after.connections[index]? = some next ∧
      WriterTurn id connection stage next last) :
    ∃ next, after.connections[index]? = some next ∧
      Turn index before after connection (some id) next := by
  by_cases hPlace : place = index
  · subst hPlace
    obtain ⟨next, hNext, hTurn⟩ := hHere rfl
    have hStage := stage?_eq_some.2 hSession
    have hStages := stage?_set place hSession hSessions
    refine ⟨next, hNext, .writes id hStage (by simpa [Session.stageOn?] using hStages) hTurn ?_⟩
    rw [closer?_set place hSession hSessions, Function.update_eq_self_iff,
      closer?_of_stage? hStage]
    rfl
  · exact ⟨connection, (hElsewhere hPlace).trans hConnection,
      still_set hSession hSessions (by simp [Session.stageOn?, hPlace]) rfl⟩

/-- A turn of a closer, seen from any connection. -/
theorem turn_of_closing {place : Nat} {stage last : ClosingStage}
    (hConnection : before.connections[index]? = some connection)
    (hSession : before.sessions[id]? = some (.closing place stage))
    (hSessions : after.sessions = before.sessions.set id (.closing place last))
    (hElsewhere : place ≠ index → after.connections[index]? = before.connections[index]?)
    (hHere : place = index → ∃ next, after.connections[index]? = some next ∧
      ClosingTurn id connection stage next last) :
    ∃ next, after.connections[index]? = some next ∧
      Turn index before after connection (some id) next := by
  by_cases hPlace : place = index
  · subst hPlace
    obtain ⟨next, hNext, hTurn⟩ := hHere rfl
    have hNone : before.stage? place id = none := by
      rw [stage?, hSession]
      rfl
    have hClosers := closer?_set place hSession hSessions
    refine ⟨next, hNext, .closes id hNone ?_ hTurn (closer?_eq_some.2 hSession)
      (by simpa [Session.closerOn?] using hClosers)⟩
    rw [stage?_set place hSession hSessions, Function.update_eq_self_iff, hNone]
    rfl
  · exact ⟨connection, (hElsewhere hPlace).trans hConnection,
      still_set hSession hSessions rfl (by simp [Session.closerOn?, hPlace])⟩

/-- A session that is neither a writer nor a closer changes no connection. -/
theorem turn_of_loan {site : Nat} {stage last : LoanStage}
    (hConnection : before.connections[index]? = some connection)
    (hSession : before.sessions[id]? = some (.loan site stage))
    (hConnections : after.connections = before.connections)
    (hSessions : after.sessions = before.sessions.set id (.loan site last)) :
    ∃ next, after.connections[index]? = some next ∧
      Turn index before after connection (some id) next :=
  ⟨connection, by rw [hConnections, hConnection], still_set hSession hSessions rfl rfl⟩

theorem Turn.same {subject : Option SessionId} {next : Connection}
    (hTurn : Turn index before after connection subject next) :
    next = { connection with outlet := next.outlet, lock := next.lock, closed := next.closed } := by
  cases hTurn with
  | still | arrives | comes | unstalls => rfl
  | closes _ _ _ hClosing => exact hClosing.same
  | writes _ _ _ hWriter => exact hWriter.same

theorem Turn.remote {subject : Option SessionId} {next : Connection}
    (hTurn : Turn index before after connection subject next) :
    next.remote = connection.remote := by
  rw [hTurn.same]

theorem Turn.version {subject : Option SessionId} {next : Connection}
    (hTurn : Turn index before after connection subject next) :
    next.version = connection.version := by
  rw [hTurn.same]

/-- Wherever a writer is after a turn, it was there before, or has just come in, or went on. -/
theorem Turn.stage_cases {subject : Option SessionId} {next : Connection}
    (hTurn : Turn index before after connection subject next) {last : WriterStage}
    (hLast : after.stage? index id = some last) :
    before.stage? index id = some last ∨
      (before.stage? index id = none ∧ before.closer? index id = none ∧ last = .starting) ∨
      ∃ stage, subject = some id ∧ before.stage? index id = some stage ∧
        WriterTurn id connection stage next last := by
  cases hTurn with
  | still hStages | comes _ _ hStages | closes _ _ hStages | unstalls _ hStages =>
      exact .inl (hStages ▸ hLast)
  | arrives other hNew hStages hCloser =>
      rw [hStages] at hLast
      by_cases hId : id = other
      · subst hId
        rw [Function.update_self] at hLast
        exact .inr (.inl ⟨hNew, hCloser, (Option.some_inj.1 hLast).symm⟩)
      · rw [Function.update_of_ne hId] at hLast
        exact .inl hLast
  | @writes other _ stage found hStage hStages hTurn =>
      rw [hStages] at hLast
      by_cases hId : id = other
      · subst hId
        rw [Function.update_self] at hLast
        cases hLast
        exact .inr (.inr ⟨stage, rfl, hStage, hTurn⟩)
      · rw [Function.update_of_ne hId] at hLast
        exact .inl hLast

theorem Turn.closer_cases {subject : Option SessionId} {next : Connection}
    (hTurn : Turn index before after connection subject next) {last : ClosingStage}
    (hLast : after.closer? index id = some last) :
    before.closer? index id = some last ∨
      (before.stage? index id = none ∧ before.closer? index id = none ∧ last = .starting) ∨
      ∃ stage, subject = some id ∧ before.closer? index id = some stage ∧
        ClosingTurn id connection stage next last := by
  cases hTurn with
  | still _ hClosers | arrives _ _ _ _ hClosers | unstalls _ _ hClosers
  | writes _ _ _ _ hClosers =>
      exact .inl (hClosers ▸ hLast)
  | comes other hNew _ hCloser hClosers =>
      rw [hClosers] at hLast
      by_cases hId : id = other
      · subst hId
        rw [Function.update_self] at hLast
        exact .inr (.inl ⟨hNew, hCloser, (Option.some_inj.1 hLast).symm⟩)
      · rw [Function.update_of_ne hId] at hLast
        exact .inl hLast
  | @closes other _ stage found _ _ hTurn hStage hClosers =>
      rw [hClosers] at hLast
      by_cases hId : id = other
      · subst hId
        rw [Function.update_self] at hLast
        cases hLast
        exact .inr (.inr ⟨stage, rfl, hStage, hTurn⟩)
      · rw [Function.update_of_ne hId] at hLast
        exact .inl hLast

/-- Whoever writes goes on to be one who writes, and goes on only in a turn of its own. -/
theorem Turn.stage_after {subject : Option SessionId} {next : Connection}
    (hTurn : Turn index before after connection subject next) {stage : WriterStage}
    (hStage : before.stage? index id = some stage) :
    ∃ last, after.stage? index id = some last ∧
      (last = stage ∨ subject = some id ∧ WriterTurn id connection stage next last) := by
  cases hTurn with
  | still hStages | comes _ _ hStages | closes _ _ hStages | unstalls _ hStages =>
      exact ⟨stage, by rw [hStages, hStage], .inl rfl⟩
  | arrives other hNew hStages =>
      have hNe : id ≠ other := by
        rintro rfl
        cases hNew.symm.trans hStage
      exact ⟨stage, by rw [hStages, Function.update_of_ne hNe, hStage], .inl rfl⟩
  | @writes other next found last hFound hStages hWriter =>
      by_cases hEq : id = other
      · subst hEq
        cases hStage.symm.trans hFound
        exact ⟨last, by rw [hStages, Function.update_self], .inr ⟨rfl, hWriter⟩⟩
      · exact ⟨stage, by rw [hStages, Function.update_of_ne hEq, hStage], .inl rfl⟩

theorem Turn.closer_after {subject : Option SessionId} {next : Connection}
    (hTurn : Turn index before after connection subject next) {stage : ClosingStage}
    (hStage : before.closer? index id = some stage) :
    ∃ last, after.closer? index id = some last ∧
      (last = stage ∨ subject = some id ∧ ClosingTurn id connection stage next last) := by
  cases hTurn with
  | still _ hClosers | arrives _ _ _ _ hClosers | unstalls _ _ hClosers
  | writes _ _ _ _ hClosers =>
      exact ⟨stage, by rw [hClosers, hStage], .inl rfl⟩
  | comes other _ _ hCloser hClosers =>
      have hNe : id ≠ other := by
        rintro rfl
        cases hCloser.symm.trans hStage
      exact ⟨stage, by rw [hClosers, Function.update_of_ne hNe, hStage], .inl rfl⟩
  | @closes other next found last _ _ hClosing hFound hClosers =>
      by_cases hEq : id = other
      · subst hEq
        cases hStage.symm.trans hFound
        exact ⟨last, by rw [hClosers, Function.update_self], .inr ⟨rfl, hClosing⟩⟩
      · exact ⟨stage, by rw [hClosers, Function.update_of_ne hEq, hStage], .inl rfl⟩

/-- What changes one connection, seen from that one and from any other. -/
theorem Changes.at {place : Nat} {found next : Connection} {session : Session}
    (hChanges : Changes before after place next id session)
    (hConnection : before.connections[index]? = some connection)
    (hFound : before.connections[place]? = some found) {P : Connection → Connection → Prop}
    (hTurn : P found next) :
    (place ≠ index → after.connections[index]? = before.connections[index]?) ∧
      (place = index → ∃ next, after.connections[index]? = some next ∧ P connection next) := by
  constructor
  · intro hPlace
    exact hChanges.elsewhere index hPlace.symm
  · intro hPlace
    subst hPlace
    cases hConnection.symm.trans hFound
    exact ⟨next, hChanges.here, hTurn⟩

theorem turn_step (hConnection : before.connections[index]? = some connection)
    (hStep : before.step id = some after) :
    ∃ next, after.connections[index]? = some next ∧
      Turn index before after connection (some id) next := by
  unfold step at hStep
  split at hStep
  · cases hStep
  · next place stage hSession =>
    obtain ⟨found, hFound, hStep⟩ := Option.bind_eq_some_iff.1 hStep
    obtain ⟨pool, -, hStep⟩ := Option.bind_eq_some_iff.1 hStep
    obtain ⟨next, last, hTurn, hChanges⟩ := turn_stepWriter hFound hStep
    obtain ⟨hElsewhere, hHere⟩ := hChanges.at hConnection hFound
      (P := fun connection next => WriterTurn id connection stage next last) hTurn
    exact turn_of_writer hConnection hSession hChanges.sessions hElsewhere hHere
  · next place stage hSession =>
    obtain ⟨found, hFound, hStep⟩ := Option.bind_eq_some_iff.1 hStep
    obtain ⟨next, last, hTurn, hChanges⟩ := turn_stepClosing hFound hStep
    obtain ⟨hElsewhere, hHere⟩ := hChanges.at hConnection hFound
      (P := fun connection next => ClosingTurn id connection stage next last) hTurn
    exact turn_of_closing hConnection hSession hChanges.sessions hElsewhere hHere
  · next site stage hSession =>
    obtain ⟨pool, -, hStep⟩ := Option.bind_eq_some_iff.1 hStep
    obtain ⟨hConnections, last, hSessions⟩ := turn_stepLoan hStep
    exact turn_of_loan hConnection hSession hConnections hSessions

theorem turn_append (hConnection : before.connections[index]? = some connection)
    (pieces : List Bytes) :
    ∃ next, (before.append id pieces).connections[index]? = some next ∧
      Turn index before (before.append id pieces) connection (some id) next := by
  unfold append
  split
  · next place buffer hSession =>
    exact turn_of_writer hConnection hSession rfl (fun _ => rfl)
      fun _ => ⟨connection, hConnection, .fills buffer pieces⟩
  · next site buffer hSession =>
    exact turn_of_loan hConnection hSession rfl rfl
  · exact ⟨connection, hConnection, .still rfl rfl⟩

/-- One who ends without success on some connection, seen from any connection. -/
theorem turn_of_conclude {place : Nat} {stage last : WriterStage}
    (hConnection : before.connections[index]? = some connection)
    (hSession : before.sessions[id]? = some (.writer place stage))
    (hLast : ∀ found, before.connections[place]? = some found →
      WriterRefusal id found stage last) :
    ∃ next, (before.conclude id (.writer place stage) (.writer place last)).connections[index]? =
      some next ∧ Turn index before (before.conclude id (.writer place stage) (.writer place last))
        connection (some id) next := by
  refine turn_of_writer hConnection hSession (sessions_conclude ..) (fun hPlace => ?_) ?_
  · apply connection_conclude_of_ne
    cases hUses : stage.usesLock <;> simp [Session.lockUsed?, hUses, hPlace]
  · rintro rfl
    obtain ⟨next, hTurn, hChanges⟩ := turn_conclude hConnection (hLast connection hConnection)
    exact ⟨next, hChanges.here, hTurn⟩

theorem turn_drop (hConnection : before.connections[index]? = some connection) :
    ∃ next, (before.drop id).connections[index]? = some next ∧
      Turn index before (before.drop id) connection (some id) next := by
  unfold drop
  split
  · exact ⟨connection, hConnection, .still rfl rfl⟩
  · next session hSession =>
    cases session with
    | writer place stage => exact turn_of_conclude hConnection hSession fun _ _ => .drops stage
    | closing place stage =>
        refine turn_of_closing hConnection hSession (sessions_conclude ..) (fun hPlace => ?_) ?_
        · apply connection_conclude_of_ne
          cases stage <;> simp [Session.lockUsed?, hPlace]
        · rintro rfl
          cases stage with
          | queued =>
              refine ⟨connection.release id, ?_, .leaves⟩
              show (before.giveUp id _).connections[place]? = _
              simp [connections_giveUp, Session.lockUsed?, hConnection]
          | _ =>
              refine ⟨connection, ?_, .quits rfl⟩
              rw [connection_conclude_of_ne before (by simp [Session.lockUsed?]), hConnection]
    | loan site stage =>
        exact turn_of_loan hConnection hSession (connections_giveUp ..) (sessions_conclude ..)

theorem turn_flush (hConnection : before.connections[index]? = some connection) :
    ∃ next, (before.flush id).connections[index]? = some next ∧
      Turn index before (before.flush id) connection (some id) next := by
  rw [flush_eq]
  split
  · next place buffer hSession =>
    split
    · exact ⟨connection, hConnection, .still rfl rfl⟩
    · next found hFound =>
      split
      · next hSize =>
        refine turn_of_conclude hConnection hSession fun other hOther => ?_
        cases hFound.symm.trans hOther
        exact .tooLarge buffer hSize
      · next hSize =>
        refine turn_of_writer hConnection hSession rfl (fun _ => rfl) ?_
        rintro rfl
        cases hConnection.symm.trans hFound
        exact ⟨connection, hConnection, .flushes buffer (Nat.le_of_not_lt hSize)⟩
  · exact ⟨connection, hConnection, .still rfl rfl⟩

/-- Every event is a turn on a connection. -/
theorem turn_perform (hConnection : before.connections[index]? = some connection) (event : Event) :
    ∃ next, (before.perform event).connections[index]? = some next ∧
      Turn index before (before.perform event) connection event.subject? next := by
  obtain ⟨hIndex, -⟩ := List.getElem?_eq_some_iff.1 hConnection
  cases event with
  | connect site remote version outlet =>
      refine ⟨connection, ?_, .still rfl rfl⟩
      show (before.connections ++ [_])[index]? = _
      rw [List.getElem?_append_left hIndex, hConnection]
  | openWriter place =>
      have hSessions : (before.perform (.openWriter place)).sessions =
        before.sessions ++ [.writer place .starting] := rfl
      by_cases hPlace : place = index
      · obtain ⟨hNone, hStages⟩ := stage?_append index hSessions
        obtain ⟨hNoCloser, hClosers⟩ := closer?_append index hSessions
        refine ⟨connection, hConnection, .arrives _ hNone ?_ hNoCloser ?_⟩
        · simpa [Session.stageOn?, hPlace] using hStages
        · rw [hClosers, Function.update_eq_self_iff, hNoCloser]
          rfl
      · exact ⟨connection, hConnection,
          still_append hSessions (by simp [Session.stageOn?, hPlace]) rfl⟩
  | close place =>
      have hSessions : (before.perform (.close place)).sessions =
        before.sessions ++ [.closing place .starting] := rfl
      by_cases hPlace : place = index
      · obtain ⟨hNone, hStages⟩ := stage?_append index hSessions
        obtain ⟨hNoCloser, hClosers⟩ := closer?_append index hSessions
        refine ⟨connection, hConnection, .comes _ hNone ?_ hNoCloser ?_⟩
        · rw [hStages, Function.update_eq_self_iff, hNone]
          rfl
        · simpa [Session.closerOn?, hPlace] using hClosers
      · exact ⟨connection, hConnection,
          still_append hSessions rfl (by simp [Session.closerOn?, hPlace])⟩
  | borrow site limit => exact ⟨connection, hConnection, still_append rfl rfl rfl⟩
  | step id =>
      cases hStep : before.step id with
      | none =>
          rw [perform_step_of_none hStep]
          exact ⟨connection, hConnection, .still rfl rfl⟩
      | some after =>
          rw [perform_step_of_some hStep]
          exact turn_step hConnection hStep
  | append id pieces => exact turn_append hConnection pieces
  | flush id => exact turn_flush hConnection
  | drop id => exact turn_drop hConnection
  | unstall place =>
      by_cases hPlace : place = index
      · subst hPlace
        cases hOutlet : connection.outlet with
        | socket socket =>
            refine ⟨_, ?_, .unstalls hOutlet rfl rfl⟩
            simp [perform, unstall, hConnection, hOutlet]
        | channel channel side =>
            refine ⟨connection, ?_, .still rfl rfl⟩
            simp [perform, unstall, hConnection, hOutlet]
      · refine ⟨connection, ?_, .still rfl rfl⟩
        exact (List.getElem?_modify_ne _ _ hPlace).trans hConnection
  | elsewhere now sites sources channels alarms => exact ⟨connection, hConnection, .still rfl rfl⟩

end Cluster

end ConfigExchange
