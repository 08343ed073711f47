import ConfigExchange.Proofs.Cluster.Errand
import ConfigExchange.Proofs.Cluster.Passage

/-! What one step of a writer comes to, told from what it finds: whether its connection is closed,
who has the lock, what the pool has for it, and what time it is. -/
namespace ConfigExchange.Cluster

variable {cluster later : Cluster} {index : Nat} {base connection : Connection} {id : SessionId}
  {stage : WriterStage}

theorem isClosed_eq (hConnection : cluster.connections[index]? = some connection) :
    cluster.isClosed index = connection.closed := by
  simp [isClosed, hConnection]

theorem holder?_eq (hConnection : cluster.connections[index]? = some connection) :
    cluster.holder? index = connection.lock.holder := by
  simp [holder?, hConnection]

/-- A step of a writer that sends nothing leaves the stream alone. -/
theorem outlet?_step (hBears : cluster.Bears index base)
    (hStage : cluster.stage? index id = some stage)
    (hIdle : ∀ buffer rest, stage ≠ .sending buffer rest) (hStep : cluster.step id = some later) :
    later.outlet? index = cluster.outlet? index := by
  obtain ⟨connection, socket, hConnection, -⟩ := hBears.present
  obtain ⟨next, hNext, hTurn⟩ := turn_step hConnection hStep
  simp only [outlet?, hNext, hConnection, Option.map_some, hTurn.outlet_of_idle hStage hIdle]

/-- A writer's step is worked out from its connection and the pool of its site. -/
theorem Bears.step_eq (hBears : cluster.Bears index base)
    (hStage : cluster.stage? index id = some stage) :
    ∃ connection pool, cluster.connections[index]? = some connection ∧
      connection = { base with
        outlet := connection.outlet, lock := connection.lock, closed := connection.closed } ∧
      cluster.pool? base.site = some pool ∧
      cluster.step id = cluster.stepWriter id index connection pool stage := by
  obtain ⟨connection, socket, pool, hConnection, -, hBase, hPool⟩ := hBears.pool
  refine ⟨connection, pool, hConnection, hBase, hPool, ?_⟩
  have hSite : connection.site = base.site := by rw [hBase]
  simp [step, stage?_eq_some.1 hStage, hConnection, hSite, hPool]

/-- A writer that comes to its connection asks for the lock, unless the connection is closed. -/
theorem step_starting (hBears : cluster.Bears index base)
    (hStage : cluster.stage? index id = some .starting) :
    ∃ later, cluster.step id = some later ∧
      ((cluster.isClosed index = true ∧
          later.stage? index id = some (.finished (.error (.closed base.remote)))) ∨
        cluster.isClosed index = false ∧ ∃ alarm, later.stage? index id = some (.queued alarm) ∧
          alarm.moment = cluster.now + base.acquireTimeout) := by
  obtain ⟨connection, pool, hConnection, hBase, -, hStep⟩ := hBears.step_eq hStage
  have hSession := stage?_eq_some.1 hStage
  have hRemote : connection.remote = base.remote := by rw [hBase]
  have hTimeout : connection.acquireTimeout = base.acquireTimeout := by rw [hBase]
  rw [hStep, isClosed_eq hConnection, ← hRemote, ← hTimeout]
  cases hClosed : connection.closed with
  | true =>
      exact ⟨_, by simp [stepWriter, hClosed]; rfl,
        .inl ⟨rfl, stage?_of_set hSession (sessions_conclude ..)⟩⟩
  | false =>
      exact ⟨_, by simp [stepWriter, hClosed]; rfl, .inr ⟨rfl, _, stage?_of_set hSession rfl, rfl⟩⟩

/-- A writer that has the lock asks for a buffer, unless the connection was closed in the meantime.
One that does not have it gives up when its time is over. -/
theorem step_queued {alarm : Alarm} (hBears : cluster.Bears index base)
    (hStage : cluster.stage? index id = some (.queued alarm)) :
    (cluster.step id = none ∧ cluster.holder? index ≠ some id ∧ cluster.now < alarm.moment) ∨
      ∃ later, cluster.step id = some later ∧
        ((cluster.holder? index ≠ some id ∧ alarm.moment ≤ cluster.now ∧ later.stage? index id =
            some (.finished (.error (.writerBusy base.remote base.acquireTimeout)))) ∨
          cluster.holder? index = some id ∧
            ((cluster.isClosed index = true ∧
                later.stage? index id = some (.finished (.error (.closed base.remote)))) ∨
              cluster.isClosed index = false ∧ ∃ next,
                later.stage? index id = some (.awaiting (alarm.moment - cluster.now) next) ∧
                next.moment = cluster.now + (alarm.moment - cluster.now))) := by
  obtain ⟨connection, pool, hConnection, hBase, -, hStep⟩ := hBears.step_eq hStage
  have hSession := stage?_eq_some.1 hStage
  have hRemote : connection.remote = base.remote := by rw [hBase]
  have hTimeout : connection.acquireTimeout = base.acquireTimeout := by rw [hBase]
  rw [hStep, isClosed_eq hConnection, holder?_eq hConnection, ← hRemote, ← hTimeout]
  by_cases hHolder : connection.lock.holder = some id
  · cases hClosed : connection.closed with
    | true =>
        exact .inr ⟨_, by simp [stepWriter, hHolder, hClosed]; rfl,
          .inr ⟨hHolder, .inl ⟨rfl, stage?_of_set hSession (sessions_conclude ..)⟩⟩⟩
    | false =>
        refine .inr ⟨_, by simp [stepWriter, hHolder, hClosed]; rfl,
          .inr ⟨hHolder, .inr ⟨rfl, (cluster.setAlarm (alarm.moment - cluster.now)).1, ?_, rfl⟩⟩⟩
        refine stage?_of_set hSession ?_
        rw [sessions_setSession, sessions_modifyPoolOf]
        rfl
  · by_cases hTime : alarm.moment ≤ cluster.now
    · exact .inr ⟨_, by simp [stepWriter, hHolder, hTime]; rfl,
        .inl ⟨hHolder, hTime, stage?_of_set hSession (sessions_conclude ..)⟩⟩
    · exact .inl ⟨by simp [stepWriter, hHolder, hTime], hHolder, Nat.lt_of_not_le hTime⟩

/-- A writer that waits for a buffer collects it as soon as it was given one, unless the pool is
closed. It gives up when its time is over. -/
theorem step_awaiting {limit : Micros} {alarm : Alarm} (hBears : cluster.Bears index base)
    (hStage : cluster.stage? index id = some (.awaiting limit alarm)) :
    ∃ pool, cluster.pool? base.site = some pool ∧
      ((cluster.step id = none ∧ pool.closed = false ∧ id ∉ pool.granted ∧
          cluster.now < alarm.moment) ∨
        ∃ later, cluster.step id = some later ∧
          ((pool.closed = true ∧ later.stage? index id = some (.finished (.error .poolClosed))) ∨
            pool.closed = false ∧
              ((id ∈ pool.granted ∧
                  ∃ capacity, later.stage? index id = some (.opened { capacity })) ∨
                id ∉ pool.granted ∧ alarm.moment ≤ cluster.now ∧
                  later.stage? index id = some (.finished (.error (.poolExhausted limit)))))) := by
  obtain ⟨connection, pool, hConnection, hBase, hPool, hStep⟩ := hBears.step_eq hStage
  have hSession := stage?_eq_some.1 hStage
  refine ⟨pool, hPool, ?_⟩
  rw [hStep]
  cases hClosed : pool.closed with
  | true =>
      have hCollect : pool.collect id = (.closed, pool) := if_pos hClosed
      exact .inr ⟨_, by simp [stepWriter, hCollect]; rfl,
        .inl ⟨rfl, stage?_of_set hSession (sessions_conclude ..)⟩⟩
  | false =>
      by_cases hGranted : id ∈ pool.granted
      · let buffer := pool.recycled.headD (.ofCapacity pool.bufferCapacity)
        have hCollect : pool.collect id = (.buffer buffer.1, { pool with
            granted := pool.granted.erase id, recycled := pool.recycled.tail }) := by
          rw [Pool.collect, if_neg (by simp [hClosed]), if_pos hGranted]
        refine .inr ⟨_, by simp only [stepWriter, hCollect]; rfl,
          .inr ⟨rfl, .inl ⟨hGranted, buffer.1.capacity, ?_⟩⟩⟩
        refine stage?_of_set hSession ?_
        rw [sessions_setSession, sessions_modifyPoolOf, ← EmptyBuffer.eq]
      · by_cases hTime : alarm.moment ≤ cluster.now
        · exact .inr ⟨_, by simp [stepWriter, Pool.collect, hClosed, hGranted, hTime]; rfl,
            .inr ⟨rfl, .inr ⟨hGranted, hTime, stage?_of_set hSession (sessions_conclude ..)⟩⟩⟩
        · exact .inl ⟨by simp [stepWriter, Pool.collect, hClosed, hGranted, hTime], rfl, hGranted,
            Nat.lt_of_not_le hTime⟩

/-- A writer that sends makes a call, and takes up what its socket answers. -/
theorem step_sending_socket {buffer : Buffer} {rest : FrameSending} {socket : Socket}
    (hBears : cluster.Bears index base)
    (hStage : cluster.stage? index id = some (.sending buffer rest))
    (hOutlet : cluster.outlet? index = some (.socket socket)) :
    ∃ answer after, socket.call rest.next = (answer, after) ∧
      ((answer = .pending ∧ cluster.step id = none) ∨
        ∃ later, answer ≠ .pending ∧ cluster.step id = some later ∧
          later.outlet? index = some (.socket after) ∧
          later.stage? index id = some (.ofProgress base.remote buffer (rest.resume answer))) := by
  obtain ⟨connection, other, pool, hConnection, -, hBase, hPool⟩ := hBears.pool
  have hSocket : connection.outlet = .socket socket := by
    rw [outlet?, hConnection] at hOutlet
    exact Option.some_inj.1 hOutlet
  have hSite : connection.site = base.site := by rw [hBase]
  have hRemote : connection.remote = base.remote := by rw [hBase]
  have hCall : connection.outlet.call cluster.channels rest.next =
      ((socket.call rest.next).1, .socket (socket.call rest.next).2, cluster.channels) := by
    rw [hSocket]
    rfl
  refine ⟨(socket.call rest.next).1, (socket.call rest.next).2, rfl, ?_⟩
  rcases step_sending hConnection hStage (hSite ▸ hPool) hCall with
    hPending | ⟨later, next, hAnswer, hStep, hNext, hLater, hProgress⟩
  · exact .inl hPending
  · refine .inr ⟨later, hAnswer, hStep, ?_, hRemote ▸ hProgress⟩
    rw [outlet?, hNext, Option.map_some, hLater]

/-- What is in a buffer is sent, unless it is too large. -/
theorem stage?_flush {buffer : Buffer} (hConnection : cluster.connections[index]? = some connection)
    (hStage : cluster.stage? index id = some (.opened buffer)) :
    (cluster.flush id).stage? index id =
      if connection.maxMessageSize < buffer.bytes.length then
        some (.finished (.error
          (.messageTooLarge buffer.bytes.length connection.maxMessageSize)))
      else some (.sending buffer (.start buffer.bytes)) := by
  have hSession := stage?_eq_some.1 hStage
  rw [flush_eq]
  simp only [hSession, hConnection]
  split
  · exact stage?_of_set hSession (sessions_conclude ..)
  · exact stage?_of_set hSession (sessions_setSession ..)

end ConfigExchange.Cluster

namespace ConfigExchange.Transmission

open Cluster

variable {cluster later : Cluster} {index : Nat} {base : Connection} {writer : SessionId}
  {next : Transmission}

/-- A message that is put in a buffer begins to be sent if it can be, and is given up otherwise.
Nothing of it is written yet. -/
theorem step_opened (message : Encodable) {capacity : Nat} (hBears : cluster.Bears index base)
    (hStage : cluster.stage? index writer = some (.opened { capacity })) :
    ∃ next later, (acquiring writer message).step cluster = some (next, later) ∧
      later.outlet? index = cluster.outlet? index ∧
      match base.prepare message with
      | .ok payload => next = flushing writer ∧
          ∃ buffer, later.stage? index writer = some (.sending buffer (.start payload))
      | .error (.encode error) => next = finished (.error (.encode error))
      | .error (.connection error) => next = flushing writer ∧
          later.stage? index writer = some (.finished (.error error)) := by
  obtain ⟨connection, socket, hConnection, -, hBase⟩ := hBears.present
  have hSession := stage?_eq_some.1 hStage
  have hVersion : connection.version = base.version := by rw [hBase]
  have hMax : connection.maxMessageSize = base.maxMessageSize := by rw [hBase]
  have hEncode : cluster.encode writer message = ((message base.version).result.map fun _ => (),
      cluster.append writer (message base.version).appends) := by
    simp [Cluster.encode, hSession, hConnection, hVersion]
  have hFilled : (cluster.append writer (message base.version).appends).stage? index writer =
      some (.opened (Buffer.appendAll { capacity } (message base.version).appends)) := by
    refine stage?_of_set hSession ?_
    simp [append, hSession]
  have hSame : (cluster.append writer (message base.version).appends).connections[index]? =
      some connection := by
    rw [← hConnection]
    simp [append, hSession]
  have hOutlet {after : Cluster} {found : Connection}
      (hFound : after.connections[index]? = some found)
      (hTurn : Turn index (cluster.append writer (message base.version).appends) after connection
        (some writer) found) : after.outlet? index = cluster.outlet? index := by
    simp only [outlet?, hFound, hConnection, Option.map_some,
      hTurn.outlet_of_idle hFilled (by simp)]
  generalize cluster.append writer (message base.version).appends = filled at *
  cases hResult : (message base.version).result with
  | error error =>
      have hPrepared : base.prepare message = .error (.encode error) := by
        simp [Connection.prepare, hResult]
      obtain ⟨found, hFound, hTurn⟩ : ∃ found,
          (filled.drop writer).connections[index]? = some found ∧
          Turn index filled (filled.drop writer) connection (some writer) found := turn_drop hSame
      rw [hPrepared]
      refine ⟨finished (.error (.encode error)), filled.drop writer, ?_, hOutlet hFound hTurn, rfl⟩
      simp [step, hSession, hEncode, hResult, Except.map]
  | ok payload =>
      obtain ⟨found, hFound, hTurn⟩ : ∃ found,
          (filled.flush writer).connections[index]? = some found ∧
          Turn index filled (filled.flush writer) connection (some writer) found := turn_flush hSame
      have hStep : (acquiring writer message).step cluster =
          some (flushing writer, filled.flush writer) := by
        simp [step, hSession, hEncode, hResult, Except.map]
      refine ⟨flushing writer, filled.flush writer, hStep, hOutlet hFound hTurn, ?_⟩
      have hBytes : (Buffer.appendAll { capacity } (message base.version).appends).bytes =
          payload := Encoding.flatten_of_result hResult
      have hFlushed := stage?_flush hSame hFilled
      rw [hMax, hBytes] at hFlushed
      by_cases hSize : base.maxMessageSize < payload.length
      · have hPrepared : base.prepare message =
            .error (.connection (.messageTooLarge payload.length base.maxMessageSize)) := by
          simp [Connection.prepare, hResult, hSize]
        rw [hPrepared]
        rw [if_pos hSize] at hFlushed
        exact ⟨rfl, hFlushed⟩
      · have hPrepared : base.prepare message = .ok payload := by
          simp [Connection.prepare, hResult, hSize]
        rw [hPrepared]
        rw [if_neg hSize] at hFlushed
        exact ⟨rfl, _, hFlushed⟩

end ConfigExchange.Transmission
