import ConfigExchange.Scenario.Progress

/-! How a scenario runs: its steps one after the other, each with everything that it sets going. The
clock stands still while anything can go on. When nothing can, it moves to the next moment at which
somebody stops waiting. -/
namespace ConfigExchange.Scenario.State

/-- How many steps in a row are looked at. No run comes near it. -/
def maxSteps : Nat := 1000000000000

/-- How long the end of an action is waited for. -/
def patience : Micros := 3600000000

/-- A job that has to wait, or its answer, with the state then, and whether anything was done. -/
structure Pause where
  state : State
  rest : Job ⊕ Answer
  moved : Bool

/-- Goes on with a job until it has to wait or is done. -/
def pursue : (steps : Nat) → State → Job → (moved : Bool) → Pause
  | 0, state, job, moved => ⟨state, .inl job, moved⟩
  | steps + 1, state, job, moved =>
    match state.stepJob job with
    | .waiting => ⟨state, .inl job, moved⟩
    | .going next later => pursue steps later next true
    | .done answer later => ⟨later, .inr answer, true⟩

/-- Puts down what is left of a task. The answer of one that is done is kept for the next report. -/
def putTask (state : State) (number : Nat) (task : Task) : Job ⊕ Answer → State
  | .inl job =>
    { state with
      tasks := state.tasks.map fun entry =>
        if entry.1 = number then (number, { task with job }) else entry }
  | .inr answer =>
    { state with
      tasks := state.tasks.filter fun entry => decide (entry.1 ≠ number)
      done := task.name.elim state.done fun name => state.done.insert name answer }

/-- Goes on with one task, and says whether anything was done. -/
def pursueTask (state : State) (number : Nat) : State × Bool :=
  match state.tasks.lookup number with
  | none => (state, false)
  | some task =>
    let pause := pursue maxSteps state task.job false
    (pause.state.putTask number task pause.rest, pause.moved)

/-- The tasks whose time is up, in the order of their alarms. -/
def dueTasks (state : State) : List Nat :=
  let due := state.tasks.filterMap fun (number, task) =>
    (state.alarm? task.job).bind fun alarm =>
      if alarm.moment ≤ state.cluster.now then some (alarm, number) else none
  (due.mergeSort fun a b => a.1.notAfter b.1).map (·.2)

/-- Goes on with every task in turn: first with those whose time is up, then with all in the order
in which they were started. -/
def pursueTasks (state : State) : State × Bool :=
  (state.dueTasks ++ state.tasks.map (·.1)).foldl (fun (state, moved) number =>
    let (state, again) := state.pursueTask number
    (state, moved || again)) (state, false)

/-- Goes on with the tasks until all of them have to wait. -/
def settle : (rounds : Nat) → State → State
  | 0, state => state
  | rounds + 1, state =>
    match state.pursueTasks with
    | (later, true) => settle rounds later
    | (later, false) => later

/-- The next moment at which a job or a task stops waiting, but not after `limit`. -/
def nextMoment (state : State) (limit : Micros) (job : Job) : Micros :=
  ((job :: state.tasks.map (·.2.job)).filterMap state.alarm?).foldl
    (fun moment alarm => min moment alarm.moment) limit

/-- Moves the clock. -/
def setClock (state : State) (now : Micros) : State :=
  { state with cluster := { state.cluster with now } }

/-- Waits for the end of a job, at most until `limit`. The tasks go on meanwhile. A job that has to
wait even then is dropped. -/
def waitFor (limit : Micros) : (rounds : Nat) → State → Job → Option Answer × State
  | 0, state, job => (none, state.dropJob job)
  | rounds + 1, state, job =>
    match pursue maxSteps state job false with
    | ⟨later, .inr answer, _⟩ => (some answer, later)
    | ⟨later, .inl rest, _⟩ =>
      if limit ≤ later.cluster.now then (none, later.dropJob rest)
      else
        match later.pursueTasks with
        | (moved, true) => waitFor limit rounds moved rest
        | (still, false) => waitFor limit rounds (still.setClock (still.nextMoment limit rest)) rest

/-- Starts a task. The one that had its name ends. -/
def spawn (state : State) (name : String) (action : Action) : State :=
  (state.abort name).addTask (some name) (.starting action)

/-- What a step does before everything is waited for: its answer, and the state then. -/
def perform (state : State) : Step → Option Answer × State
  | .act action => state.waitFor (state.cluster.now + patience) maxSteps (.starting action)
  | .spawn name action => (some .nothing, state.spawn name action)
  | .advance span => (some .nothing, state.setClock (state.cluster.now + span))

/-- The socket of a connection that writes to one. -/
def socket? (state : State) (index : Nat) : Option Socket :=
  state.cluster.connections[index]?.bind fun connection =>
    match connection.outlet with
    | .socket socket => some socket
    | .channel .. => none

/-- What happened on the connections that have a name, since the state was `earlier`. -/
def activitySince (state earlier : State) : List (String × SocketActivity) :=
  state.connections.entries.filterMap fun (name, index) =>
    (state.socket? index).bind fun socket =>
      (socket.activitySince ((earlier.socket? index).getD {})).map fun activity => (name, activity)

/-- Does a step and reports on it. -/
def report (state : State) (step : Step) : Report × State :=
  let (answer, performed) := { state with done := ∅ }.perform step
  let later := settle maxSteps performed
  ({ answer
     elapsed := performed.cluster.now - state.cluster.now
     activity := later.activitySince state
     done := later.done
     available := ((later.cluster.pool? localSite).map (·.free)).getD 0 }, later)

/-- Does steps in order and reports on each. -/
def reports : State → List Step → List Report
  | _, [] => []
  | state, step :: steps =>
    let (report, later) := state.report step
    report :: reports later steps

end ConfigExchange.Scenario.State

namespace ConfigExchange.Scenario

/-- Runs a scenario from the start. -/
def run (settings otherSettings : Settings) (steps : List Step) : List Report :=
  (State.start settings otherSettings).reports steps

end ConfigExchange.Scenario
