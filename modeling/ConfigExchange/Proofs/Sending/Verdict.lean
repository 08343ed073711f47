import ConfigExchange.Proofs.Frame.Script
import ConfigExchange.Proofs.Sending.Writer

/-! What the sending of one message comes to among whatever else is done. It is told from what the
message finds at its own steps: it opens a writer, comes to the connection, waits for the lock and
for a buffer, is put into the buffer, and only then is anything written. -/
namespace ConfigExchange

open Cluster Passage

/-- The failures of a stream which say that the other end cannot be reached over it. -/
def IoKind.losses : List IoKind :=
  [.brokenPipe, .connectionReset, .connectionAborted, .notConnected, .unexpectedEof]

/-- What a message comes to when its socket fails. -/
def Connection.failure (connection : Connection) (error : IoError) : SendError :=
  .connection
    (if error.kind ∈ IoKind.losses then .unreachable connection.remote error else .io error)

theorem Connection.ofIo_eq (connection : Connection) (error : IoError) :
    .connection (.ofIo connection.remote error) = connection.failure error := by
  unfold failure ConnectionError.ofIo
  cases error.kind <;> rfl

/-- A message cannot be written, or it is too large, or its payload is what it writes. -/
theorem Connection.prepare_cases (connection : Connection) (message : Encodable) :
    (∃ error, connection.prepare message = .error (.encode error)) ∨
      (∃ length limit, connection.prepare message =
        .error (.connection (.messageTooLarge length limit))) ∨
      connection.prepare message = .ok (message connection.version).bytes := by
  unfold prepare Encoding.result
  cases (message connection.version).error with
  | some error => exact .inl ⟨error, rfl⟩
  | none =>
      simp only
      split
      · exact .inr (.inl ⟨_, _, rfl⟩)
      · exact .inr (.inr rfl)

theorem Connection.of_prepare_eq_ok {connection : Connection} {message : Encodable}
    {payload : Bytes} (hPrepare : connection.prepare message = .ok payload) :
    (message connection.version).result = .ok payload ∧
      payload.length ≤ connection.maxMessageSize := by
  unfold prepare at hPrepare
  split at hPrepare
  · cases hPrepare
  · next found hFound =>
    split at hPrepare
    · cases hPrepare
    · next hSize =>
      cases hPrepare
      exact ⟨hFound, Nat.le_of_not_lt hSize⟩

namespace Transmission

/-- The payload of a message that gets as far as the socket, or why it does not. Its steps are made
at these moments: at the first its writer is opened, at the second this comes to the connection, at
the third it is done waiting for the lock, and at the fourth for a buffer. -/
def admission (index : Nat) (base : Connection) (message : Encodable) (moment : Nat → Cluster) :
    Except SendError Bytes :=
  let writer := (moment 0).sessions.length
  let pool? := (moment 3).pool? base.site
  if (moment 1).isClosed index then .error (.connection (.closed base.remote))
  else if (moment 2).holder? index ≠ some writer then
    .error (.connection (.writerBusy base.remote base.acquireTimeout))
  else if (moment 2).isClosed index then .error (.connection (.closed base.remote))
  else if pool?.any (·.closed) then .error (.connection .poolClosed)
  else if pool?.all (writer ∉ ·.granted) then
    .error (.connection (.poolExhausted ((moment 1).now + base.acquireTimeout - (moment 2).now)))
  else base.prepare message

/-- Whether the time was over when a message was given up for want of the lock or of a buffer. -/
def Patient (base : Connection) (moment : Nat → Cluster) : SendError → Prop
  | .connection (.writerBusy ..) => (moment 1).now + base.acquireTimeout ≤ (moment 2).now
  | .connection (.poolExhausted limit) => (moment 2).now + limit ≤ (moment 3).now
  | _ => True

/-- How many steps a message can take at most until it is written or given up. -/
def longest (index : Nat) (base : Connection) (message : Encodable) (moment : Nat → Cluster) :
    Nat :=
  10 + (message base.version).bytes.length + ((moment 4).script index).writes.length

/-- What a message waits for, after so many steps: the lock or a buffer, while there is time, or its
socket. -/
inductive Waits (index : Nat) (base : Connection) (moment : Nat → Cluster) (cluster : Cluster) :
    Nat → Prop where
  | lock (hHolder : cluster.holder? index ≠ some (moment 0).sessions.length)
      (hTime : cluster.now < (moment 1).now + base.acquireTimeout) :
      Waits index base moment cluster 2
  | buffer {pool : Pool} (hPool : cluster.pool? base.site = some pool) (hOpen : pool.closed = false)
      (hNone : (moment 0).sessions.length ∉ pool.granted)
      (hTime : cluster.now <
        (moment 2).now + ((moment 1).now + base.acquireTimeout - (moment 2).now)) :
      Waits index base moment cluster 3
  | socket {socket : Socket} {count : Nat}
      (hOutlet : cluster.outlet? index = some (.socket socket))
      (hStalls : socket.script.writes.head? = some .stall ∨
        socket.script.flushes.head? = some .stall)
      (hCount : 5 ≤ count) :
      Waits index base moment cluster count

/-- Whether something is so of the moments of some steps, whatever steps are made after them. -/
def Lasting (steps : List (Cluster × Cluster)) (P : (Nat → Cluster) → Prop) : Prop :=
  ∀ more, P (moment (steps ++ more))

theorem Lasting.concat {steps : List (Cluster × Cluster)} {P Q : (Nat → Cluster) → Prop}
    (hLasting : Lasting steps P) (step : Cluster × Cluster)
    (hThen : ∀ moment, P moment → Q moment) : Lasting (steps ++ [step]) Q := by
  intro more
  rw [List.append_assoc]
  exact hThen _ (hLasting _)

theorem Lasting.now {steps : List (Cluster × Cluster)} {P : (Nat → Cluster) → Prop}
    (hLasting : Lasting steps P) : P (moment steps) := by
  have hNow := hLasting []
  rwa [List.append_nil] at hNow

/-- What a message has come to after its steps: it was given up and nothing of it was written, or
its socket took of its frame what the script makes of it, in one piece. -/
inductive Settled (index : Nat) (base : Connection) (message : Encodable)
    (steps : List (Cluster × Cluster)) (cluster : Cluster) : Except SendError Unit → Prop where
  | refused {error : SendError}
      (hRefused : Lasting steps fun moment =>
        admission index base message moment = .error error ∧ Patient base moment error)
      (hUntouched : Untouched index steps) :
      Settled index base message steps cluster (.error error)
  | sent (payload : Bytes) {result : Except IoError Unit}
      (hSent : Lasting steps fun moment =>
        admission index base message moment = .ok payload ∧
          ((moment 4).script index).send payload = (result, gains index steps) ∧
          (moment 4).accepted index ++ gains index steps <+: cluster.accepted index) :
      Settled index base message steps cluster (result.mapError base.failure)

/-- How far a message has come, after the steps that were made for it. -/
inductive Reached (index : Nat) (base : Connection) (message : Encodable) :
    List (Cluster × Cluster) → Cluster → Transmission → Prop where
  | begins {cluster : Cluster} : Reached index base message [] cluster (.starting index message)
  | comes {opens : Cluster × Cluster} {cluster : Cluster} {writer : SessionId}
      (hWriter : opens.1.sessions.length = writer)
      (hStage : cluster.stage? index writer = some .starting)
      (hUntouched : Untouched index [opens]) :
      Reached index base message [opens] cluster (.acquiring writer message)
  | queues {opens comes : Cluster × Cluster} {cluster : Cluster} {writer : SessionId}
      {alarm : Alarm} (hWriter : opens.1.sessions.length = writer)
      (hStage : cluster.stage? index writer = some (.queued alarm))
      (hUntouched : Untouched index [opens, comes]) (hOpen : comes.1.isClosed index = false)
      (hAlarm : alarm.moment = comes.1.now + base.acquireTimeout) :
      Reached index base message [opens, comes] cluster (.acquiring writer message)
  | asks {opens comes locks : Cluster × Cluster} {cluster : Cluster} {writer : SessionId}
      {limit : Micros} {alarm : Alarm} (hWriter : opens.1.sessions.length = writer)
      (hStage : cluster.stage? index writer = some (.awaiting limit alarm))
      (hUntouched : Untouched index [opens, comes, locks]) (hOpen : comes.1.isClosed index = false)
      (hHolder : locks.1.holder? index = some writer) (hStays : locks.1.isClosed index = false)
      (hLimit : limit = comes.1.now + base.acquireTimeout - locks.1.now)
      (hAlarm : alarm.moment = locks.1.now + limit) :
      Reached index base message [opens, comes, locks] cluster (.acquiring writer message)
  | has {steps : List (Cluster × Cluster)} {cluster : Cluster} {writer : SessionId} {capacity : Nat}
      (hLength : steps.length = 4)
      (hStage : cluster.stage? index writer = some (.opened { capacity }))
      (hUntouched : Untouched index steps)
      (hAdmission : Lasting steps fun moment =>
        admission index base message moment = base.prepare message) :
      Reached index base message steps cluster (.acquiring writer message)
  | sends {steps : List (Cluster × Cluster)} {cluster : Cluster} {writer : SessionId}
      {buffer : Buffer} {rest : FrameSending} {socket : Socket} (payload : Bytes)
      (hLength : 5 ≤ steps.length)
      (hStage : cluster.stage? index writer = some (.sending buffer rest))
      (hOutlet : cluster.outlet? index = some (.socket socket))
      (hSends : Lasting steps fun moment =>
        admission index base message moment = .ok payload ∧
          ((moment 4).script index).send payload =
            (socket.script.outcome rest.pieces).map id (gains index steps ++ ·) ∧
          (moment 4).accepted index ++ gains index steps = socket.accepted ∧
          steps.length + rest.weight socket ≤ longest index base message moment) :
      Reached index base message steps cluster (.flushing writer)
  | refused {steps : List (Cluster × Cluster)} {cluster : Cluster} {writer : SessionId}
      {error : ConnectionError} (hLength : steps.length ≤ 4)
      (hStage : cluster.stage? index writer = some (.finished (.error error)))
      (hSettled : Settled index base message steps cluster (.error (.connection error))) :
      Reached index base message steps cluster (.acquiring writer message)
  | flushed {steps : List (Cluster × Cluster)} {cluster : Cluster} {writer : SessionId}
      {result : Except ConnectionError Unit}
      (hLength : Lasting steps fun moment => steps.length ≤ longest index base message moment)
      (hStage : cluster.stage? index writer = some (.finished result))
      (hSettled : Settled index base message steps cluster (result.mapError .connection)) :
      Reached index base message steps cluster (.flushing writer)
  | ended {steps : List (Cluster × Cluster)} {cluster : Cluster} {result : Except SendError Unit}
      (hLength : Lasting steps fun moment => steps.length ≤ longest index base message moment + 1)
      (hSettled : Settled index base message steps cluster result) :
      Reached index base message steps cluster (.finished result)

end Transmission

/-- What is sent of a message that gets as far as the socket is what it is written as. -/
theorem Transmission.prepare_of_admission {index : Nat} {base : Connection} {message : Encodable}
    {moment : Nat → Cluster} {payload : Bytes}
    (hAdmitted : admission index base message moment = .ok payload) :
    base.prepare message = .ok payload := by
  unfold admission at hAdmitted
  simp only at hAdmitted
  repeat' split at hAdmitted
  any_goals cases hAdmitted
  exact hAdmitted

/-! ### What the steps leave alone -/

namespace Cluster

variable {cluster later : Cluster} {index : Nat} {steps : List (Cluster × Cluster)}
  {socket : Socket}

theorem accepted_of_outlet? (hOutlet : cluster.outlet? index = some (.socket socket)) :
    cluster.accepted index = socket.accepted := by
  obtain ⟨connection, hConnection, hSocket⟩ := Option.map_eq_some_iff.1 hOutlet
  exact accepted_eq hConnection hSocket

theorem accepted_congr (hSame : later.outlet? index = cluster.outlet? index) :
    later.accepted index = cluster.accepted index := by
  have hAccepted (cluster : Cluster) :
      cluster.accepted index = ((cluster.outlet? index).map (·.accepted)).getD [] := by
    rw [accepted, outlet?, Option.map_map]
    rfl
  rw [hAccepted, hAccepted, hSame]

theorem script_of_outlet? (hOutlet : cluster.outlet? index = some (.socket socket)) :
    cluster.script index = socket.script := by
  simp [script, hOutlet]

theorem gains_concat (index : Nat) (steps : List (Cluster × Cluster)) (step : Cluster × Cluster) :
    gains index (steps ++ [step]) =
      gains index steps ++ (step.2.accepted index).drop (step.1.accepted index).length := by
  simp [gains]

theorem gains_concat_of_untouched (hSame : later.outlet? index = cluster.outlet? index) :
    gains index (steps ++ [(cluster, later)]) = gains index steps := by
  rw [gains_concat, accepted_congr hSame, List.drop_length, List.append_nil]

theorem Untouched.concat (hUntouched : Untouched index steps)
    (hSame : later.outlet? index = cluster.outlet? index) :
    Untouched index (steps ++ [(cluster, later)]) := by
  intro step hStep
  rcases List.mem_append.1 hStep with hOld | hLast
  · exact hUntouched step hOld
  · cases List.mem_singleton.1 hLast
    exact hSame

/-- Nothing is accepted in steps that leave the socket alone. -/
theorem Untouched.gains_eq (hUntouched : Untouched index steps) : gains index steps = [] := by
  refine List.flatMap_eq_nil_iff.2 fun step hStep => ?_
  rw [accepted_congr (hUntouched step hStep), List.drop_length]

end Cluster

namespace Transmission

variable {cluster later : Cluster} {index : Nat} {base : Connection} {message : Encodable}
  {steps : List (Cluster × Cluster)} {transmission next : Transmission} {deed : Deed}
  {result : Except SendError Unit} {writer : SessionId}

/-! ### What others do -/

/-- What a message has come to does not depend on what is done then. -/
theorem Settled.others (hSettled : Settled index base message steps cluster result)
    (hBears : cluster.Bears index base) (deed : Deed) :
    Settled index base message steps (cluster.enact deed) result := by
  cases hSettled with
  | refused hRefused hUntouched => exact .refused hRefused hUntouched
  | sent payload hSent =>
      refine .sent payload fun more => ?_
      obtain ⟨hAdmitted, hOutcome, hStream⟩ := hSent more
      exact ⟨hAdmitted, hOutcome, hStream.trans (hBears.enact deed).2⟩

/-- What others do leaves a message where it is. -/
theorem Reached.others (hReached : Reached index base message steps cluster transmission)
    (hBears : cluster.Bears index base)
    (hOther : ∀ writer, transmission.writer? = some writer → deed.subject? ≠ some writer) :
    Reached index base message steps (cluster.enact deed) transmission := by
  obtain ⟨connection, -, hConnection, -⟩ := hBears.present
  have hStays {id : SessionId} {stage : WriterStage} (hStage : cluster.stage? index id = some stage)
      (hSubject : deed.subject? ≠ some id) :
      (cluster.enact deed).stage? index id = some stage := by
    show (cluster.enactAll [deed]).stage? index id = some stage
    refine stage?_enactAll_of_ne hConnection hStage fun other hMem => ?_
    cases List.mem_singleton.1 hMem
    exact hSubject
  cases hReached with
  | begins => exact .begins
  | comes hWriter hStage hUntouched =>
      exact .comes hWriter (hStays hStage (hOther _ rfl)) hUntouched
  | queues hWriter hStage hUntouched hOpen hAlarm =>
      exact .queues hWriter (hStays hStage (hOther _ rfl)) hUntouched hOpen hAlarm
  | asks hWriter hStage hUntouched hOpen hHolder hLater hLimit hAlarm =>
      exact .asks hWriter (hStays hStage (hOther _ rfl)) hUntouched hOpen hHolder hLater hLimit
        hAlarm
  | has hLength hStage hUntouched hAdmission =>
      exact .has hLength (hStays hStage (hOther _ rfl)) hUntouched hAdmission
  | sends payload hLength hStage hOutlet hSends =>
      -- The writer has the lock, so others can do no more than let a stalled call go on.
      have hSubject := hOther _ rfl
      rcases socket_enact_of_holds hBears hStage rfl hSubject hOutlet with hSame | hUnstalled
      · exact .sends payload hLength (hStays hStage hSubject) hSame hSends
      · refine .sends payload hLength (hStays hStage hSubject) hUnstalled fun more => ?_
        obtain ⟨hAdmitted, hOutcome, hAccepted, hWeight⟩ := hSends more
        refine ⟨hAdmitted, ?_, ?_, ?_⟩
        · rw [SocketScript.outcome_unstall]
          exact hOutcome
        · rw [Socket.accepted_unstall]
          exact hAccepted
        · exact Nat.le_trans (Nat.add_le_add_left (FrameSending.weight_unstall_le _ _) _) hWeight
  | refused hLength hStage hSettled =>
      exact .refused hLength (hStays hStage (hOther _ rfl)) (hSettled.others hBears deed)
  | flushed hLength hStage hSettled =>
      exact .flushed hLength (hStays hStage (hOther _ rfl)) (hSettled.others hBears deed)
  | ended hLength hSettled => exact .ended hLength (hSettled.others hBears deed)

/-! ### Its own steps -/

/-- What a message has come to stays so in steps that do nothing. -/
theorem Settled.concat (hSettled : Settled index base message steps cluster result) :
    Settled index base message (steps ++ [(cluster, cluster)]) cluster result := by
  cases hSettled with
  | refused hRefused hUntouched =>
      exact .refused (hRefused.concat _ fun _ hMoment => hMoment) (hUntouched.concat rfl)
  | sent payload hSent =>
      refine .sent payload ?_
      rw [gains_concat_of_untouched rfl]
      exact hSent.concat _ fun _ hMoment => hMoment

/-- A step is made that leads on, or there is something to wait for. -/
def Proceeds (index : Nat) (base : Connection) (message : Encodable)
    (steps : List (Cluster × Cluster)) (cluster : Cluster) (transmission : Transmission) : Prop :=
  (transmission.step cluster = none ∧ Waits index base (moment steps) cluster steps.length) ∨
    ∃ next later, transmission.step cluster = some (next, later) ∧
      Reached index base message (steps ++ [(cluster, later)]) later next

/-- A message that has its writer, but not its buffer yet, goes on with a step of its writer. -/
theorem step_acquiring (message : Encodable) {stage : WriterStage}
    (hStage : cluster.stage? index writer = some stage)
    (hBlank : stage.isBlank = true) :
    (acquiring writer message).step cluster =
      (cluster.step writer).map fun cluster => (acquiring writer message, cluster) := by
  cases stage with
  | starting | queued | awaiting => simp [step, stage?_eq_some.1 hStage]
  | opened | sending | finished | dropped => cases hBlank

theorem proceeds_begins (index : Nat) (base : Connection) (message : Encodable)
    (cluster : Cluster) :
    Proceeds index base message [] cluster (.starting index message) := by
  refine .inr ⟨_, _, rfl, .comes rfl ?_ fun step hStep => ?_⟩
  · exact stage?_eq_some.2 (List.getElem?_concat_length ..)
  · cases List.mem_singleton.1 hStep
    rfl

theorem proceeds_comes {opens : Cluster × Cluster} (hBears : cluster.Bears index base)
    (hWriter : opens.1.sessions.length = writer)
    (hStage : cluster.stage? index writer = some .starting) (hUntouched : Untouched index [opens]) :
    Proceeds index base message [opens] cluster (.acquiring writer message) := by
  obtain ⟨later, hStep, hCase⟩ := step_starting hBears hStage
  have hStill := hUntouched.concat (outlet?_step hBears hStage (by simp) hStep)
  refine .inr ⟨_, later, by rw [step_acquiring message hStage rfl, hStep]; rfl, ?_⟩
  rcases hCase with ⟨hClosed, hEnds⟩ | ⟨hOpen, alarm, hQueued, hAlarm⟩
  · refine .refused (by simp) hEnds (.refused (fun more => ⟨?_, trivial⟩) hStill)
    simp [admission, moment, hClosed]
  · exact .queues hWriter hQueued hStill hOpen hAlarm

theorem proceeds_queues {opens comes : Cluster × Cluster} {alarm : Alarm}
    (hBears : cluster.Bears index base) (hWriter : opens.1.sessions.length = writer)
    (hStage : cluster.stage? index writer = some (.queued alarm))
    (hUntouched : Untouched index [opens, comes]) (hOpen : comes.1.isClosed index = false)
    (hAlarm : alarm.moment = comes.1.now + base.acquireTimeout) :
    Proceeds index base message [opens, comes] cluster (.acquiring writer message) := by
  have hSteps := step_acquiring message hStage rfl
  rcases step_queued hBears hStage with ⟨hNone, hHolder, hTime⟩ | ⟨later, hStep, hCase⟩
  · refine .inl ⟨by rw [hSteps, hNone]; rfl, .lock ?_ ?_⟩
    · simpa [moment, hWriter] using hHolder
    · simpa [moment, ← hAlarm] using hTime
  · have hStill := hUntouched.concat (outlet?_step hBears hStage (by simp) hStep)
    refine .inr ⟨_, later, by rw [hSteps, hStep]; rfl, ?_⟩
    rcases hCase with ⟨hHolder, hTime, hEnds⟩ |
      ⟨hHolder, ⟨hClosed, hEnds⟩ | ⟨hStays, next, hAsks, hNext⟩⟩
    · refine .refused (by simp) hEnds (.refused (fun more => ⟨?_, ?_⟩) hStill)
      · simp [admission, moment, hOpen, hWriter, hHolder]
      · simpa [Patient, moment, ← hAlarm] using hTime
    · refine .refused (by simp) hEnds (.refused (fun more => ⟨?_, trivial⟩) hStill)
      simp [admission, moment, hOpen, hWriter, hHolder, hClosed]
    · exact .asks hWriter hAsks hStill hOpen hHolder hStays (by rw [hAlarm]) hNext

theorem proceeds_asks {opens comes locks : Cluster × Cluster} {limit : Micros} {alarm : Alarm}
    (hBears : cluster.Bears index base) (hWriter : opens.1.sessions.length = writer)
    (hStage : cluster.stage? index writer = some (.awaiting limit alarm))
    (hUntouched : Untouched index [opens, comes, locks]) (hOpen : comes.1.isClosed index = false)
    (hHolder : locks.1.holder? index = some writer) (hStays : locks.1.isClosed index = false)
    (hLimit : limit = comes.1.now + base.acquireTimeout - locks.1.now)
    (hAlarm : alarm.moment = locks.1.now + limit) :
    Proceeds index base message [opens, comes, locks] cluster (.acquiring writer message) := by
  have hSteps := step_acquiring message hStage rfl
  obtain ⟨pool, hPool, ⟨hNone, hClosed, hGranted, hTime⟩ | ⟨later, hStep, hCase⟩⟩ :=
    step_awaiting hBears hStage
  · refine .inl ⟨by rw [hSteps, hNone]; rfl, .buffer hPool hClosed ?_ ?_⟩
    · simpa [moment, hWriter] using hGranted
    · simpa [moment, ← hLimit, ← hAlarm] using hTime
  · have hStill := hUntouched.concat (outlet?_step hBears hStage (by simp) hStep)
    refine .inr ⟨_, later, by rw [hSteps, hStep]; rfl, ?_⟩
    rcases hCase with ⟨hClosed, hEnds⟩ |
      ⟨hClosed, ⟨hGranted, capacity, hHas⟩ | ⟨hGranted, hTime, hEnds⟩⟩
    · refine .refused (by simp) hEnds (.refused (fun more => ⟨?_, trivial⟩) hStill)
      simp [admission, moment, hOpen, hWriter, hHolder, hStays, hPool, hClosed]
    · refine .has (by simp) hHas hStill fun more => ?_
      simp [admission, moment, hOpen, hWriter, hHolder, hStays, hPool, hClosed, hGranted]
    · refine .refused (by simp) hEnds (.refused (fun more => ⟨?_, ?_⟩) hStill)
      · simp [admission, moment, hOpen, hWriter, hHolder, hStays, hPool, hClosed, hGranted, hLimit]
      · simpa [Patient, moment, ← hAlarm] using hTime

/-- The moment of the next step. -/
theorem moment_next (steps more : List (Cluster × Cluster)) (step : Cluster × Cluster) :
    moment (steps ++ step :: more) steps.length = step.1 := by
  simp [moment]

theorem proceeds_has {capacity : Nat} (hBears : cluster.Bears index base)
    (hLength : steps.length = 4)
    (hStage : cluster.stage? index writer = some (.opened { capacity }))
    (hUntouched : Untouched index steps)
    (hAdmission : Lasting steps fun moment =>
      admission index base message moment = base.prepare message) :
    Proceeds index base message steps cluster (.acquiring writer message) := by
  obtain ⟨next, later, hStep, hOutlet, hNext⟩ := step_opened message hBears hStage
  have hStill := hUntouched.concat hOutlet
  have hFive : (steps ++ [(cluster, later)]).length = 5 := by simp [hLength]
  have hShort (n : Nat) : Lasting (steps ++ [(cluster, later)]) fun moment =>
      (steps ++ [(cluster, later)]).length ≤ longest index base message moment + n := by
    intro more
    rw [hFive, longest]
    omega
  have hRefused {error : SendError} (hError : base.prepare message = .error error)
      (hPatient : ∀ moment, Patient base moment error) :
      Settled index base message (steps ++ [(cluster, later)]) later (.error error) := by
    refine .refused (hAdmission.concat _ fun moment hMoment => ⟨?_, hPatient moment⟩) hStill
    rw [hMoment, hError]
  refine .inr ⟨next, later, hStep, ?_⟩
  rcases base.prepare_cases message with ⟨error, hPrepare⟩ | ⟨length, limit, hPrepare⟩ | hPrepare
  · rw [hPrepare] at hNext
    rw [hNext]
    exact .ended (hShort 1) (hRefused hPrepare fun _ => trivial)
  · rw [hPrepare] at hNext
    obtain ⟨rfl, hEnds⟩ := hNext
    exact .flushed (hShort 0) hEnds (hRefused hPrepare fun _ => trivial)
  · rw [hPrepare] at hNext
    obtain ⟨rfl, buffer, hSends⟩ := hNext
    obtain ⟨connection, socket, hConnection, hSocket, -⟩ := hBears.present
    have hHere : cluster.outlet? index = some (.socket socket) := by
      rw [outlet?, hConnection, Option.map_some, hSocket]
    refine .sends (message base.version).bytes (Nat.le_of_eq hFive.symm) hSends
      (hOutlet.trans hHere) fun more => ?_
    -- This is the moment at which the script is looked at: nothing was written before.
    have hMoment : moment (steps ++ [(cluster, later)] ++ more) 4 = cluster := by
      rw [List.append_assoc, ← hLength]
      exact moment_next ..
    refine ⟨?_, ?_, ?_, ?_⟩
    · rw [← hPrepare]
      exact hAdmission.concat _ (fun _ hMoment => hMoment) more
    · rw [hMoment, hStill.gains_eq, script_of_outlet? hHere]
      rfl
    · rw [hMoment, hStill.gains_eq, List.append_nil, accepted_of_outlet? hHere]
    · rw [hFive, longest, hMoment, script_of_outlet? hHere]
      simp only [FrameSending.weight, FrameSending.start, frameHeader, length_bigEndian,
        headerWidth]
      omega

section

variable {buffer : Buffer} {rest : FrameSending} {socket after : Socket} {payload : Bytes}

/-- A message is settled by a call after which nothing is left of it, and which takes nothing. -/
theorem settled_of_outcome {outcome : Except IoError Unit}
    (hSends : Lasting steps fun moment =>
      admission index base message moment = .ok payload ∧
        ((moment 4).script index).send payload =
          (socket.script.outcome rest.pieces).map id (gains index steps ++ ·) ∧
        (moment 4).accepted index ++ gains index steps = socket.accepted ∧
        steps.length + rest.weight socket ≤ longest index base message moment)
    (hOutlet : cluster.outlet? index = some (.socket socket))
    (hLater : later.outlet? index = some (.socket after))
    (hTaken : after.accepted = socket.accepted)
    (hOutcome : socket.script.outcome rest.pieces = (outcome, [])) :
    Lasting (steps ++ [(cluster, later)]) (fun moment =>
        (steps ++ [(cluster, later)]).length ≤ longest index base message moment) ∧
      Settled index base message (steps ++ [(cluster, later)]) later
        (outcome.mapError base.failure) := by
  have hNothing : gains index (steps ++ [(cluster, later)]) = gains index steps := by
    rw [gains_concat, accepted_of_outlet? hLater, accepted_of_outlet? hOutlet, hTaken,
      List.drop_length, List.append_nil]
  refine ⟨hSends.concat _ fun moment hMoment => ?_,
    .sent payload (hSends.concat _ fun moment hMoment => ?_)⟩
  · have hPos : 0 < rest.weight socket := Nat.succ_pos _
    have hBound := hMoment.2.2.2
    rw [List.length_append, List.length_singleton]
    omega
  · obtain ⟨hAdmitted, hOutcomeAll, hAccepted, -⟩ := hMoment
    rw [hNothing, accepted_of_outlet? hLater, hTaken, ← hAccepted]
    refine ⟨hAdmitted, ?_, List.prefix_rfl⟩
    rw [hOutcomeAll, hOutcome]
    simp [Prod.map]

/-- What a message that is being written comes to is what the script of its socket makes of what is
left of it, and each call takes up some of that. -/
theorem proceeds_sends (hBears : cluster.Bears index base) (hLength : 5 ≤ steps.length)
    (hStage : cluster.stage? index writer = some (.sending buffer rest))
    (hOutlet : cluster.outlet? index = some (.socket socket))
    (hSends : Lasting steps fun moment =>
      admission index base message moment = .ok payload ∧
        ((moment 4).script index).send payload =
          (socket.script.outcome rest.pieces).map id (gains index steps ++ ·) ∧
        (moment 4).accepted index ++ gains index steps = socket.accepted ∧
        steps.length + rest.weight socket ≤ longest index base message moment) :
    Proceeds index base message steps cluster (.flushing writer) := by
  have hSteps : (flushing writer).step cluster =
      (cluster.step writer).map fun cluster => (flushing writer, cluster) := by
    simp [step, stage?_eq_some.1 hStage]
  obtain ⟨answer, after, hCall, ⟨rfl, hNone⟩ | ⟨later, hAnswer, hStep, hLater, hProgress⟩⟩ :=
    step_sending_socket hBears hStage hOutlet
  · exact .inl ⟨by rw [hSteps, hNone]; rfl,
      .socket hOutlet (FrameSending.stalls_of_pending hCall) hLength⟩
  · refine .inr ⟨_, later, by rw [hSteps, hStep]; rfl, ?_⟩
    have hFollows := FrameSending.follows_call hCall hAnswer
    cases hResume : rest.resume answer with
    | going more =>
        rw [hResume] at hFollows hProgress
        obtain ⟨taken, hTaken, hOutcome, hWeight⟩ := hFollows
        have hGains : gains index (steps ++ [(cluster, later)]) = gains index steps ++ taken := by
          rw [gains_concat, accepted_of_outlet? hLater, accepted_of_outlet? hOutlet, hTaken,
            List.drop_left]
        refine .sends payload (by simp; omega) hProgress hLater
          (hSends.concat _ fun moment hMoment => ?_)
        obtain ⟨hAdmitted, hOutcomeAll, hAccepted, hBound⟩ := hMoment
        refine ⟨hAdmitted, ?_, ?_, ?_⟩
        · rw [hOutcomeAll, hOutcome, hGains]
          simp [Prod.map, List.append_assoc]
        · rw [hGains, ← List.append_assoc, hAccepted, hTaken]
        · rw [List.length_append, List.length_singleton]
          omega
    | complete =>
        rw [hResume] at hFollows hProgress
        obtain ⟨hBound, hSettled⟩ := settled_of_outcome hSends hOutlet hLater hFollows.1 hFollows.2
        exact .flushed hBound hProgress hSettled
    | failed error =>
        rw [hResume] at hFollows hProgress
        obtain ⟨hBound, hSettled⟩ := settled_of_outcome hSends hOutlet hLater hFollows.1 hFollows.2
        refine .flushed hBound hProgress ?_
        show Settled _ _ _ _ _ (.error (.connection (.ofIo base.remote error)))
        rw [base.ofIo_eq]
        exact hSettled

end

/-- A message that has not come to its end goes on, or has something to wait for. -/
theorem Reached.proceeds (hReached : Reached index base message steps cluster transmission)
    (hBears : cluster.Bears index base) :
    (∃ result, transmission = .finished result) ∨
      Proceeds index base message steps cluster transmission := by
  -- One case for each stage; the writer of a message that is over needs no step any more.
  cases hReached with
  | begins => exact .inr (proceeds_begins index base message cluster)
  | comes hWriter hStage hUntouched => exact .inr (proceeds_comes hBears hWriter hStage hUntouched)
  | queues hWriter hStage hUntouched hOpen hAlarm =>
      exact .inr (proceeds_queues hBears hWriter hStage hUntouched hOpen hAlarm)
  | asks hWriter hStage hUntouched hOpen hHolder hStays hLimit hAlarm =>
      exact .inr (proceeds_asks hBears hWriter hStage hUntouched hOpen hHolder hStays hLimit hAlarm)
  | has hLength hStage hUntouched hAdmission =>
      exact .inr (proceeds_has hBears hLength hStage hUntouched hAdmission)
  | sends payload hLength hStage hOutlet hSends =>
      exact .inr (proceeds_sends hBears hLength hStage hOutlet hSends)
  | refused hLength hStage hSettled =>
      refine .inr (.inr ⟨_, cluster, by simp [step, stage?_eq_some.1 hStage],
        .ended (fun more => ?_) hSettled.concat⟩)
      rw [List.length_append, List.length_singleton]
      unfold longest
      omega
  | flushed hLength hStage hSettled =>
      refine .inr (.inr ⟨_, cluster, by simp [step, stage?_eq_some.1 hStage],
        .ended (hLength.concat _ fun moment hMoment => ?_) hSettled.concat⟩)
      rw [List.length_append, List.length_singleton]
      omega
  | ended => exact .inl ⟨_, rfl⟩

/-- A message makes no more steps than it takes to write its frame, and to find that it is over. -/
theorem Reached.length_le (hReached : Reached index base message steps cluster transmission) :
    steps.length ≤ longest index base message (moment steps) + 1 := by
  cases hReached with
  | begins => exact Nat.zero_le _
  | comes | queues | asks => simp only [List.length_cons, List.length_nil, longest]; omega
  | has hLength | refused hLength => rw [longest]; omega
  | sends _ _ _ _ hSends =>
      have hBound := hSends.now.2.2.2
      omega
  | flushed hLength => exact Nat.le_succ_of_le hLength.now
  | ended hLength => exact hLength.now

end Transmission

end ConfigExchange
