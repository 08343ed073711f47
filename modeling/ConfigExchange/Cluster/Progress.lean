import ConfigExchange.Cluster

/-! How sessions go on. One step of a session is what happens between two moments at which another
session may come in; there is none while it has to wait. -/
namespace ConfigExchange.Cluster

/-- Takes back whatever a session has or waits for. A buffer goes back before the lock. -/
def giveUp (cluster : Cluster) (id : SessionId) : Session → Cluster
  | .writer connection (.queued _) | .closing connection .queued =>
    cluster.modifyLock connection (·.withdraw id)
  | .writer connection (.awaiting ..) =>
    (cluster.modifyPoolOf connection (·.withdraw id)).modifyLock connection (·.withdraw id)
  | .writer connection (.opened buffer) | .writer connection (.sending buffer _) =>
    (cluster.modifyPoolOf connection (·.giveBack buffer)).modifyLock connection (·.withdraw id)
  | .loan site (.awaiting ..) => cluster.modifyPool site (·.withdraw id)
  | .loan site (.lent buffer) => cluster.modifyPool site (·.giveBack buffer)
  | _ => cluster

/-- Takes back what a session has, and leaves `last` in its place. -/
def conclude (cluster : Cluster) (id : SessionId) (old last : Session) : Cluster :=
  (cluster.giveUp id old).setSession id last

/-- A step of a writer, with the pool its buffer comes from: it asks for the
lock, then for a buffer in what is left of its time, and once it is told to send, makes one call on
the stream. -/
def stepWriter (cluster : Cluster) (id : SessionId) (index : Nat) (connection : Connection)
    (pool : Pool) (stage : WriterStage) : Option Cluster :=
  let go (cluster : Cluster) (next : WriterStage) :=
    some (cluster.setSession id (.writer index next))
  let fail (error : ConnectionError) :=
    some (cluster.conclude id (.writer index stage) (.writer index (.finished (.error error))))
  match stage with
  | .starting =>
    if connection.closed then fail (.closed connection.remote)
    else
      let (alarm, later) := cluster.setAlarm connection.acquireTimeout
      go (later.modifyLock index (·.request id)) (.queued alarm)
  | .queued alarm =>
    if connection.lock.holder = some id then
      if connection.closed then fail (.closed connection.remote)
      else
        let limit := alarm.moment - cluster.now
        let (next, later) := cluster.setAlarm limit
        go (later.modifyPoolOf index (·.request id)) (.awaiting limit next)
    else if alarm.moment ≤ cluster.now then
      fail (.writerBusy connection.remote connection.acquireTimeout)
    else none
  | .awaiting limit alarm =>
    match pool.collect id with
    | (.buffer buffer, pool) => go (cluster.modifyPoolOf index fun _ => pool) (.opened buffer)
    | (.closed, _) => fail .poolClosed
    | (.pending, _) => if alarm.moment ≤ cluster.now then fail (.poolExhausted limit) else none
  | .sending buffer rest =>
    match connection.outlet.call cluster.channels rest.next with
    | (.pending, _, _) => none
    | (answer, outlet, channels) =>
      let later := { cluster with channels }.modifyConnection index fun connection =>
        { connection with outlet }
      let finish (result : Except ConnectionError Unit) :=
        some (later.conclude id (.writer index stage) (.writer index (.finished result)))
      match rest.resume answer with
      | .going rest => go later (.sending buffer rest)
      | .complete => finish (.ok ())
      | .failed error => finish (.error (.ofIo connection.remote error))
  | .opened _ | .finished _ | .dropped => none

/-- A step of a closer. Only the first one for a connection does anything: it marks the connection
as closed at once, and shuts the stream down when it has the lock. -/
def stepClosing (cluster : Cluster) (id : SessionId) (index : Nat) (connection : Connection)
    (stage : ClosingStage) : Option Cluster :=
  match stage with
  | .starting =>
    if connection.closed then some (cluster.setSession id (.closing index (.finished (.ok ()))))
    else
      let closed := cluster.modifyConnection index fun connection =>
        { connection with closed := true, lock := connection.lock.request id }
      some (closed.setSession id (.closing index .queued))
  | .queued =>
    if connection.lock.holder = some id then
      match connection.outlet.call cluster.channels .shutdown with
      | (.pending, _, _) => none
      | (answer, outlet, channels) =>
        let later := { cluster with channels }.modifyConnection index fun connection =>
          { connection with outlet }
        let result :=
          match answer with
          | .failed error => .error (.ofIo connection.remote error)
          | _ => .ok ()
        some (later.conclude id (.closing index stage) (.closing index (.finished result)))
    else none
  | .finished _ | .dropped => none

/-- A step of one who borrows a buffer. -/
def stepLoan (cluster : Cluster) (id : SessionId) (site : Nat) (pool : Pool) (stage : LoanStage) :
    Option Cluster :=
  let fail (error : ConnectionError) :=
    some (cluster.conclude id (.loan site stage) (.loan site (.failed error)))
  match stage with
  | .starting limit =>
    let (alarm, later) := cluster.setAlarm limit
    some ((later.modifyPool site (·.request id)).setSession id (.loan site (.awaiting limit alarm)))
  | .awaiting limit alarm =>
    match pool.collect id with
    | (.buffer buffer, pool) =>
      some ((cluster.modifyPool site fun _ => pool).setSession id (.loan site (.lent buffer)))
    | (.closed, _) => fail .poolClosed
    | (.pending, _) => if alarm.moment ≤ cluster.now then fail (.poolExhausted limit) else none
  | .lent _ | .failed _ | .dropped => none

/-- A step of a session. There is none if it waits, or is waited for. -/
def step (cluster : Cluster) (id : SessionId) : Option Cluster :=
  match cluster.sessions[id]? with
  | none => none
  | some (.writer index stage) =>
    cluster.connections[index]?.bind fun connection =>
      (cluster.pool? connection.site).bind fun pool =>
        cluster.stepWriter id index connection pool stage
  | some (.closing index stage) =>
    cluster.connections[index]?.bind fun connection => cluster.stepClosing id index connection stage
  | some (.loan site stage) =>
    (cluster.pool? site).bind fun pool => cluster.stepLoan id site pool stage

/-- Starts a writer on a connection. -/
def openWriter (cluster : Cluster) (connection : Nat) : SessionId × Cluster :=
  cluster.begin (.writer connection .starting)

/-- Starts to close a connection. -/
def close (cluster : Cluster) (connection : Nat) : SessionId × Cluster :=
  cluster.begin (.closing connection .starting)

/-- Starts the loan of a buffer of a site, for which it is waited for `limit`. -/
def borrow (cluster : Cluster) (site : Nat) (limit : Micros) : SessionId × Cluster :=
  cluster.begin (.loan site (.starting limit))

/-- Ends a session where it is. -/
def drop (cluster : Cluster) (id : SessionId) : Cluster :=
  match cluster.sessions[id]? with
  | none => cluster
  | some session =>
    match session with
    | .writer index _ => cluster.conclude id session (.writer index .dropped)
    | .closing index _ => cluster.conclude id session (.closing index .dropped)
    | .loan site _ => cluster.conclude id session (.loan site .dropped)

/-- The buffer of a session that may be filled. -/
def buffer? (cluster : Cluster) (id : SessionId) : Option Buffer :=
  match cluster.sessions[id]? with
  | some (.writer _ (.opened buffer)) | some (.loan _ (.lent buffer)) => some buffer
  | _ => none

/-- Appends to the buffer of a session. -/
def append (cluster : Cluster) (id : SessionId) (pieces : List Bytes) : Cluster :=
  match cluster.sessions[id]? with
  | some (.writer index (.opened buffer)) =>
    cluster.setSession id (.writer index (.opened (buffer.appendAll pieces)))
  | some (.loan site (.lent buffer)) =>
    cluster.setSession id (.loan site (.lent (buffer.appendAll pieces)))
  | _ => cluster

/-- Tells a writer to send its buffer as one frame. What is too large is not sent. The length of
anything else is asserted to fit its header; if that fails, the writer is dropped on the way out. -/
def flushIn (build : Build) (cluster : Cluster) (id : SessionId) :
    Except Assertion Unit × Cluster :=
  match cluster.sessions[id]? with
  | some (.writer index (.opened buffer)) =>
    match cluster.connections[index]? with
    | none => (.ok (), cluster)
    | some connection =>
      let length := buffer.bytes.length
      let limit := connection.maxMessageSize
      if limit < length then
        (.ok (), cluster.conclude id (.writer index (.opened buffer))
          (.writer index (.finished (.error (.messageTooLarge length limit)))))
      else
        match build.frameHeader length with
        | .error failed => (.error failed, cluster.drop id)
        | .ok header =>
          (.ok (), cluster.setSession id (.writer index (.sending buffer ⟨header, buffer.bytes⟩)))
  | _ => (.ok (), cluster)

/-- Tells a writer to send its buffer, in a build that checks no assertion. -/
def flush (cluster : Cluster) (id : SessionId) : Cluster := (cluster.flushIn .release id).2

/-- When a session stops waiting, if it waits for a limited time. -/
def alarm? (cluster : Cluster) (id : SessionId) : Option Alarm :=
  cluster.sessions[id]?.bind (·.alarm?)

end ConfigExchange.Cluster
