import ConfigExchange.Proofs.Cluster.Alone

/-! Errands: what a transmission has left to do on a connection that nobody else uses. An errand is
followed without looking at locks, pools and sessions. -/
namespace ConfigExchange

/-- The payload that a message is sent as, or why it cannot be sent. -/
def Connection.prepare (connection : Connection) (message : Encodable) : Except SendError Bytes :=
  match (message connection.version).result with
  | .error error => .error (.encode error)
  | .ok payload =>
    if connection.maxMessageSize < payload.length then
      .error (.connection (.messageTooLarge payload.length connection.maxMessageSize))
    else .ok payload

/-- What is written is all that was appended. -/
theorem Encoding.flatten_of_result {encoding : Encoding} {payload : Bytes}
    (hResult : encoding.result = .ok payload) : encoding.appends.flatten = payload := by
  unfold result at hResult
  split at hResult
  · cases hResult
  · cases hResult
    rfl

/-- What is left to do. -/
inductive Errand where
  /-- A writer is obtained in so many steps, and then the message put in its buffer. -/
  | obtain (steps : Nat) (message : Encodable)
  /-- The stream has yet to take these bytes, and to be flushed. -/
  | send (left : Bytes)
  /-- What came of it is passed on in so many steps. -/
  | report (steps : Nat) (result : Except SendError Unit)

namespace Errand

/-- One step of an errand, whose result is passed on in `depth` steps at most. It changes the outlet
of the connection and the channels, and nothing else that others could see. -/
inductive Step (depth : Nat) (connection : Connection) (channels : Channels) :
    Errand → Connection → Errand → Channels → Prop where
  | obtains (steps : Nat) (message : Encodable) :
      Step depth connection channels (.obtain (steps + 1) message) connection
        (.obtain steps message) channels
  | fills {message : Encodable} {payload : Bytes}
      (hPayload : connection.prepare message = .ok payload) :
      Step depth connection channels (.obtain 0 message) connection (.send (frame payload)) channels
  | refuses {message : Encodable} {error : SendError} {steps : Nat}
      (hError : connection.prepare message = .error error) (hSteps : steps ≤ depth) :
      Step depth connection channels (.obtain 0 message) connection (.report steps (.error error))
        channels
  | writes {bytes taken left : Bytes} {outlet : Outlet} {later : Channels}
      (hCall : connection.outlet.call channels (.write bytes) =
        (.accepted taken.length, outlet, later))
      (hTaken : taken <+: bytes) (hSome : taken ≠ []) :
      Step depth connection channels (.send (taken ++ left)) { connection with outlet } (.send left)
        later
  | flushes {outlet : Outlet} {later : Channels} {steps : Nat}
      (hCall : connection.outlet.call channels .flush = (.done, outlet, later))
      (hSteps : steps ≤ depth) :
      Step depth connection channels (.send []) { connection with outlet } (.report steps (.ok ()))
        later
  | reports (steps : Nat) (result : Except SendError Unit) :
      Step depth connection channels (.report (steps + 1) result) connection (.report steps result)
        channels

variable {depth : Nat} {connection next : Connection} {channels channelsLater : Channels}
  {errand rest : Errand}

/-- What is still to be written for an errand. -/
def due (connection : Connection) : Errand → Bytes
  | obtain _ message => match connection.prepare message with
    | .ok payload => frame payload
    | .error _ => []
  | send left => left
  | report .. => []

/-- How many steps an errand can take at most. -/
def cost (depth : Nat) (connection : Connection) (errand : Errand) : Nat :=
  (errand.due connection).length + match errand with
    | obtain steps _ => steps + depth + 2
    | send _ => depth + 1
    | report steps _ => steps

theorem Step.cost_lt (hStep : Step depth connection channels errand next rest channelsLater) :
    rest.cost depth next < errand.cost depth connection := by
  cases hStep with
  | obtains =>
      simp only [cost, due]
      omega
  | fills hPayload =>
      simp only [cost, due, hPayload]
      omega
  | refuses hError hSteps =>
      simp only [cost, due, hError]
      omega
  | writes hCall hTaken hSome =>
      have hLength := List.length_pos_iff.2 hSome
      simp only [cost, due, List.length_append]
      omega
  | flushes hCall hSteps =>
      simp only [cost, due]
      omega
  | reports => simp [cost, due]

/-- The errand of someone who has to pass on what came of it one step further. -/
def later : Errand → Errand
  | report steps result => report (steps + 1) result
  | errand => errand

theorem Step.later (hStep : Step depth connection channels errand next rest channelsLater) :
    Step (depth + 1) connection channels errand.later next rest.later channelsLater := by
  cases hStep with
  | obtains steps message => exact .obtains steps message
  | fills hPayload => exact .fills hPayload
  | refuses hError hSteps => exact .refuses hError (Nat.succ_le_succ hSteps)
  | writes hCall hTaken hSome => exact .writes hCall hTaken hSome
  | flushes hCall hSteps => exact .flushes hCall (Nat.succ_le_succ hSteps)
  | reports steps result => exact .reports (steps + 1) result

/-- What comes of an errand on which the stream does not fail. -/
def outcome (connection : Connection) : Errand → Except SendError Unit
  | obtain _ message => (connection.prepare message).map fun _ => ()
  | send _ => .ok ()
  | report _ result => result

/-- Nothing is lost on the way: what a step does not write is due after it. -/
theorem Step.due_eq (hStep : Step depth connection channels errand next rest channelsLater) :
    rest.outcome next = errand.outcome connection ∧
      ((next = connection ∧ channelsLater = channels ∧ rest.due next = errand.due connection) ∨
        (∃ bytes taken outlet, connection.outlet.call channels (.write bytes) =
            (.accepted taken.length, outlet, channelsLater) ∧ taken <+: bytes ∧ taken ≠ [] ∧
          next = { connection with outlet } ∧ errand.due connection = taken ++ rest.due next) ∨
        ∃ outlet, connection.outlet.call channels .flush = (.done, outlet, channelsLater) ∧
          next = { connection with outlet } ∧ rest.due next = errand.due connection) := by
  cases hStep with
  | obtains steps message => exact ⟨rfl, .inl ⟨rfl, rfl, rfl⟩⟩
  | fills hPayload => simp [outcome, due, hPayload, Except.map]
  | refuses hError hSteps => simp [outcome, due, hError, Except.map]
  | writes hCall hTaken hSome =>
      exact ⟨rfl, .inr (.inl ⟨_, _, _, hCall, hTaken, hSome, rfl, rfl⟩)⟩
  | flushes hCall hSteps => exact ⟨rfl, .inr (.inr ⟨_, hCall, rfl, rfl⟩)⟩
  | reports steps result => exact ⟨rfl, .inl ⟨rfl, rfl, rfl⟩⟩

/-- A step changes nothing of the connection but its outlet. -/
theorem Step.same (hStep : Step depth connection channels errand next rest channelsLater) :
    next = { connection with outlet := next.outlet } := by
  cases hStep <;> rfl

end Errand

/-- An outlet on which nothing fails: it takes some of what it is given, or keeps the caller
waiting, and can always be flushed. -/
structure Outlet.Obliging (outlet : Outlet) (channels : Channels) : Prop where
  write : ∀ bytes, bytes ≠ [] → (outlet.call channels (.write bytes)).1 = .pending ∨
    ∃ taken later channelsLater, taken <+: bytes ∧ taken ≠ [] ∧
      outlet.call channels (.write bytes) = (.accepted taken.length, later, channelsLater)
  flush : ∃ later channelsLater, outlet.call channels .flush = (.done, later, channelsLater)

/-- The stream keeps waiting whoever has something to write. -/
def Connection.Waits (connection : Connection) (channels : Channels) : Prop :=
  ∃ bytes, bytes ≠ [] ∧ (connection.outlet.call channels (.write bytes)).1 = .pending

/-- A step is made, and leaves alone what is not the user's of that connection. -/
def Cluster.Goes {α : Type} (cluster : Cluster) (index place : Nat) (step : Option (α × Cluster))
    (Stands : α → Cluster → Prop) (channels : Channels) : Prop :=
  ∃ later after, step = some (later, after) ∧ Stands later after ∧
    cluster.Spares after index place ∧ after.channels = channels

/-- The step of one who acts through another. -/
theorem Cluster.Goes.map {α β : Type} {cluster : Cluster} {index place : Nat}
    {step : Option (α × Cluster)} {Stands : α → Cluster → Prop} {channels : Channels}
    (hGoes : cluster.Goes index place step Stands channels) (wrap : α → β)
    {StandsOuter : β → Cluster → Prop}
    (hStands : ∀ later after, Stands later after → StandsOuter (wrap later) after) :
    cluster.Goes index place (step.map fun (later, after) => (wrap later, after)) StandsOuter
      channels := by
  obtain ⟨later, after, rfl, hLater, hSpares, hChannels⟩ := hGoes
  exact ⟨wrap later, after, rfl, hStands later after hLater, hSpares, hChannels⟩

namespace Transmission

variable {cluster : Cluster} {index : Nat} {connection : Connection} {site : Site}
  {transmission : Transmission} {errand : Errand}

/-- What a transmission has left to do, when nobody else uses its connection. -/
inductive Stands (cluster : Cluster) (index : Nat) (connection : Connection) (site : Site) :
    Transmission → Errand → Prop where
  | starting (message : Encodable) (hIdle : cluster.Idle index connection site) :
      Stands cluster index connection site (.starting index message) (.obtain 4 message)
  | begun {writer : SessionId} (message : Encodable) (hIdle : cluster.Idle index connection site)
      (hStage : cluster.stage? index writer = some .starting) :
      Stands cluster index connection site (.acquiring writer message) (.obtain 3 message)
  | queued {writer : SessionId} {alarm : Alarm} (message : Encodable)
      (hKeeps : cluster.Keeps index connection site (some writer) (0 < ·.free))
      (hStage : cluster.stage? index writer = some (.queued alarm)) :
      Stands cluster index connection site (.acquiring writer message) (.obtain 2 message)
  | awaiting {writer : SessionId} {limit : Micros} {alarm : Alarm} (message : Encodable)
      (hKeeps : cluster.Keeps index connection site (some writer) (writer ∈ ·.granted))
      (hStage : cluster.stage? index writer = some (.awaiting limit alarm)) :
      Stands cluster index connection site (.acquiring writer message) (.obtain 1 message)
  | opened {writer : SessionId} {capacity : Nat} (message : Encodable)
      (hKeeps : cluster.Keeps index connection site (some writer) fun _ => True)
      (hStage : cluster.stage? index writer = some (.opened { capacity })) :
      Stands cluster index connection site (.acquiring writer message) (.obtain 0 message)
  | sending {writer : SessionId} {buffer : Buffer} {rest : FrameSending}
      (hKeeps : cluster.Keeps index connection site (some writer) fun _ => True)
      (hStage : cluster.stage? index writer = some (.sending buffer rest)) :
      Stands cluster index connection site (.flushing writer) (.send rest.left)
  | flushed {writer : SessionId} {result : Except ConnectionError Unit}
      (hIdle : cluster.Idle index connection site)
      (hStage : cluster.stage? index writer = some (.finished result)) :
      Stands cluster index connection site (.flushing writer)
        (.report 1 (result.mapError .connection))
  | finished (result : Except SendError Unit) (hIdle : cluster.Idle index connection site) :
      Stands cluster index connection site (.finished result) (.report 0 result)

/-- A message that is put in a buffer is sent if it can be, and otherwise given up. -/
theorem goes_opened {writer : SessionId} {capacity : Nat} (message : Encodable)
    (hKeeps : cluster.Keeps index connection site (some writer) fun _ => True)
    (hStage : cluster.stage? index writer = some (.opened { capacity })) :
    ∃ rest, Errand.Step 1 connection cluster.channels (.obtain 0 message) connection rest
        cluster.channels ∧
      cluster.Goes index connection.site ((acquiring writer message).step cluster)
        (fun later after => later.Stands after index connection site rest) cluster.channels := by
  obtain ⟨hFilled, hOpened, hSpares, hChannels⟩ :=
    hKeeps.append hStage (message connection.version).appends
  have hEncode : cluster.encode writer message = ((message connection.version).result.map fun _ => (),
      cluster.append writer (message connection.version).appends) := by
    simp [Cluster.encode, Cluster.stage?_eq_some.1 hStage, hKeeps.here]
  generalize cluster.append writer (message connection.version).appends = filled at *
  cases hResult : (message connection.version).result with
  | error error =>
      have hRefused : connection.prepare message = .error (.encode error) := by
        simp [Connection.prepare, hResult]
      have hStep : step cluster (.acquiring writer message) =
          some (.finished (.error (.encode error)), filled.drop writer) := by
        simp [step, Cluster.stage?_eq_some.1 hStage, hEncode, hResult, Except.map]
      obtain ⟨hIdle, hSparesLast, hChannelsLast⟩ := hFilled.drop hOpened
      exact ⟨_, .refuses hRefused (Nat.zero_le 1), _, _, hStep, .finished _ hIdle,
        hSpares.trans hSparesLast, hChannelsLast.trans hChannels⟩
  | ok payload =>
      have hStep : step cluster (.acquiring writer message) =
          some (.flushing writer, filled.flush writer) := by
        simp [step, Cluster.stage?_eq_some.1 hStage, hEncode, hResult, Except.map]
      have hBytes : (Buffer.appendAll { capacity } (message connection.version).appends).bytes =
          payload := Encoding.flatten_of_result hResult
      generalize Buffer.appendAll { capacity } (message connection.version).appends = buffer at *
      by_cases hSize : connection.maxMessageSize < payload.length
      · have hRefused : connection.prepare message =
            .error (.connection (.messageTooLarge payload.length connection.maxMessageSize)) := by
          simp [Connection.prepare, hResult, hSize]
        obtain ⟨hIdle, hLast, hSparesLast, hChannelsLast⟩ :=
          hFilled.flush_of_lt hOpened (by rwa [hBytes])
        rw [hBytes] at hLast
        exact ⟨_, .refuses hRefused (Nat.le_refl 1), _, _, hStep, .flushed hIdle hLast,
          hSpares.trans hSparesLast, hChannelsLast.trans hChannels⟩
      · have hPrepared : connection.prepare message = .ok payload := by
          simp [Connection.prepare, hResult, hSize]
        obtain ⟨hKept, hSending, hSparesLast, hChannelsLast⟩ :=
          hFilled.flush_of_le hOpened (by rw [hBytes]; exact Nat.not_lt.1 hSize)
        rw [hBytes] at hSending
        exact ⟨_, .fills hPrepared, _, _, hStep, .sending hKept hSending,
          hSpares.trans hSparesLast, hChannelsLast.trans hChannels⟩

/-- Of what is left to send, the stream takes some, or it keeps the transmission waiting. -/
theorem goes_sending {writer : SessionId} {buffer : Buffer} {rest : FrameSending}
    (hObliging : connection.outlet.Obliging cluster.channels)
    (hKeeps : cluster.Keeps index connection site (some writer) fun _ => True)
    (hStage : cluster.stage? index writer = some (.sending buffer rest)) :
    connection.Waits cluster.channels ∧ (flushing writer).step cluster = none ∨
      ∃ next more channels,
        Errand.Step 1 connection cluster.channels (.send rest.left) next more channels ∧
          cluster.Goes index connection.site ((flushing writer).step cluster)
            (fun later after => later.Stands after index next site more) channels := by
  have hStep : (flushing writer).step cluster =
      (cluster.step writer).map fun cluster => (flushing writer, cluster) := by
    simp [step, Cluster.stage?_eq_some.1 hStage]
  rcases rest.next_cases with ⟨hLeft, hNext⟩ | ⟨bytes, tail, hBytes, hNext, hLeft, hAdvance⟩
  · obtain ⟨later, channels, hCall⟩ := hObliging.flush
    obtain ⟨after, hAfter, hIdle, hFinished, hSpares, hChannels⟩ :=
      hKeeps.step_of_done hStage (by rwa [hNext])
    rw [hAfter] at hStep
    rw [hLeft]
    exact .inr ⟨_, _, _, .flushes hCall (Nat.le_refl 1), _, _, hStep, .flushed hIdle hFinished, hSpares,
      hChannels⟩
  · rcases hObliging.write bytes hBytes with
      hPending | ⟨taken, later, channels, hTaken, hSome, hCall⟩
    · rw [hKeeps.step_of_pending hStage (by rwa [hNext])] at hStep
      exact .inl ⟨⟨bytes, hBytes, hPending⟩, hStep⟩
    · obtain ⟨after, hAfter, hKept, hSending, hSpares, hChannels⟩ :=
        hKeeps.step_of_accepted hStage (by rwa [hNext]) (mt List.length_eq_zero_iff.1 hSome)
      rw [hAfter] at hStep
      obtain ⟨more, hMore⟩ := hTaken
      have hRest : rest.left = taken ++ (rest.advance taken.length).left := by
        rw [hAdvance taken more hMore.symm, hLeft, ← hMore, List.append_assoc]
      rw [hRest]
      exact .inr ⟨_, _, _, .writes hCall ⟨more, hMore⟩ hSome, _, _, hStep, .sending hKept hSending,
        hSpares, hChannels⟩

/-- A transmission on a connection that nobody else uses is kept waiting by its stream, or does a
step of its errand. -/
theorem Stands.step (hStands : Stands cluster index connection site transmission errand)
    (hGoing : transmission.result? = none)
    (hObliging : connection.outlet.Obliging cluster.channels) :
    connection.Waits cluster.channels ∧ transmission.step cluster = none ∨
      ∃ next rest channels, Errand.Step 1 connection cluster.channels errand next rest channels ∧
        cluster.Goes index connection.site (transmission.step cluster)
          (fun later after => later.Stands after index next site rest) channels := by
  cases hStands with
  | starting message hIdle =>
      obtain ⟨hOpened, hStage, hSpares⟩ := hIdle.openWriter
      exact .inr ⟨_, _, _, .obtains 3 message, _, _, rfl, .begun message hOpened hStage,
        hSpares, rfl⟩
  | begun message hIdle hStage =>
      obtain ⟨after, alarm, hAfter, hKept, hQueued, hSpares, hChannels⟩ :=
        hIdle.step_starting hStage
      refine .inr ⟨_, _, _, .obtains 2 message, _, after, ?_, .queued message hKept hQueued,
        hSpares, hChannels⟩
      simp [Transmission.step, Cluster.stage?_eq_some.1 hStage, hAfter]
  | queued message hKeeps hStage =>
      obtain ⟨after, limit, alarm, hAfter, hKept, hAwaiting, hSpares, hChannels⟩ :=
        hKeeps.step_queued hStage
      refine .inr ⟨_, _, _, .obtains 1 message, _, after, ?_,
        .awaiting message hKept hAwaiting, hSpares, hChannels⟩
      simp [Transmission.step, Cluster.stage?_eq_some.1 hStage, hAfter]
  | awaiting message hKeeps hStage =>
      obtain ⟨after, capacity, hAfter, hKept, hOpened, hSpares, hChannels⟩ :=
        hKeeps.step_awaiting hStage
      refine .inr ⟨_, _, _, .obtains 0 message, _, after, ?_, .opened message hKept hOpened,
        hSpares, hChannels⟩
      simp [Transmission.step, Cluster.stage?_eq_some.1 hStage, hAfter]
  | opened message hKeeps hStage =>
      obtain ⟨rest, hStep, hGoes⟩ := goes_opened message hKeeps hStage
      exact .inr ⟨_, _, _, hStep, hGoes⟩
  | sending hKeeps hStage =>
      rcases goes_sending hObliging hKeeps hStage with hWaits | hGoes
      · exact .inl hWaits
      · exact .inr hGoes
  | @flushed writer result hIdle hStage =>
      refine .inr ⟨_, _, _, .reports 0 _, .finished (result.mapError .connection), cluster, ?_,
        .finished _ hIdle, .refl _ _ _, rfl⟩
      simp [Transmission.step, Cluster.stage?_eq_some.1 hStage]
  | finished result hIdle => cases hGoing

theorem Stands.keeps (hStands : Stands cluster index connection site transmission errand) :
    ∃ holder ready, cluster.Keeps index connection site holder ready := by
  cases hStands with
  | starting message hIdle => exact ⟨_, _, hIdle⟩
  | begun message hIdle hStage => exact ⟨_, _, hIdle⟩
  | queued message hKeeps hStage => exact ⟨_, _, hKeeps⟩
  | awaiting message hKeeps hStage => exact ⟨_, _, hKeeps⟩
  | opened message hKeeps hStage => exact ⟨_, _, hKeeps⟩
  | sending hKeeps hStage => exact ⟨_, _, hKeeps⟩
  | flushed hIdle hStage => exact ⟨_, _, hIdle⟩
  | finished result hIdle => exact ⟨_, _, hIdle⟩

/-- Where a transmission stands depends on its connection, its site and its writer only. -/
theorem Stands.congr {after : Cluster} {siteNext : Site}
    (hStands : Stands cluster index connection site transmission errand)
    (hKeep : ∀ holder ready, cluster.Keeps index connection site holder ready →
      after.Keeps index connection siteNext holder ready)
    (hStages : ∀ id, after.stage? index id = cluster.stage? index id) :
    Stands after index connection siteNext transmission errand := by
  cases hStands with
  | starting message hIdle => exact .starting message (hKeep _ _ hIdle)
  | begun message hIdle hStage => exact .begun message (hKeep _ _ hIdle) ((hStages _).trans hStage)
  | queued message hKeeps hStage =>
      exact .queued message (hKeep _ _ hKeeps) ((hStages _).trans hStage)
  | awaiting message hKeeps hStage =>
      exact .awaiting message (hKeep _ _ hKeeps) ((hStages _).trans hStage)
  | opened message hKeeps hStage =>
      exact .opened message (hKeep _ _ hKeeps) ((hStages _).trans hStage)
  | sending hKeeps hStage => exact .sending (hKeep _ _ hKeeps) ((hStages _).trans hStage)
  | flushed hIdle hStage => exact .flushed (hKeep _ _ hIdle) ((hStages _).trans hStage)
  | finished result hIdle => exact .finished result (hKeep _ _ hIdle)

end Transmission

end ConfigExchange
