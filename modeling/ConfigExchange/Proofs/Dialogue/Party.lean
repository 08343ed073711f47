import ConfigExchange.Exchange.Requesting
import ConfigExchange.Proofs.Dialogue.Passing
import ConfigExchange.Proofs.Serving.Reply

/-! The two parties at the ends of a channel. A requester and a server act alike on the channel:
both give a frame and then take one. They differ in what they make of the frame they have taken. -/
namespace ConfigExchange

/-- The cluster after a read of at most `n` bytes at an end of a channel. -/
def ChannelEnd.afterRead (stub : ChannelEnd) (cluster : Cluster) (n : Nat) : Cluster :=
  { cluster with channels := { stub with received := stub.received.drop n }.putIn cluster.channels }

namespace Duty

/-- What a party with a duty does next. It waits for room, or gives; or it waits for something to
read, or takes. `finish` is what it makes of the end of a frame. -/
inductive Acts {α : Type} (cluster : Cluster) (index : Nat) (connection : Connection) (depth : Nat)
    (stub : ChannelEnd) (Stands : Duty → α → Cluster → Prop)
    (finish : Cluster → FrameProgress → α × Cluster) (step : Option (α × Cluster)) : Duty → Prop where
  | blocked {errand : Errand} (hFull : stub.capacity ≤ stub.sent.length) (hStep : step = none) :
      Acts cluster index connection depth stub Stands finish step (give errand)
  | gives {errand : Errand} {sentNext : Bytes} {next : Duty}
      (hGives : Gives depth connection stub.sent errand sentNext next)
      (hGoes : cluster.Goes index connection.site step (Stands next)
        ({ stub with sent := sentNext }.putIn cluster.channels)) :
      Acts cluster index connection depth stub Stands finish step (give errand)
  | waits {reading : FrameReading} (hNone : stub.received = []) (hStep : step = none) :
      Acts cluster index connection depth stub Stands finish step (take reading)
  | takes {reading next : FrameReading} (hSome : stub.received ≠ [])
      (hAdd : reading.add connection.maxMessageSize (stub.received.take reading.missing) =
        .going next)
      (hGoes : cluster.Goes index connection.site step (Stands (take next))
        ({ stub with received := stub.received.drop reading.missing }.putIn cluster.channels)) :
      Acts cluster index connection depth stub Stands finish step (take reading)
  | ends {reading : FrameReading} (hSome : stub.received ≠ [])
      (hEnds : ∀ next, reading.add connection.maxMessageSize (stub.received.take reading.missing) ≠
        .going next)
      (hStep : step = some (finish (stub.afterRead cluster reading.missing)
        (reading.add connection.maxMessageSize (stub.received.take reading.missing)))) :
      Acts cluster index connection depth stub Stands finish step (take reading)

variable {α : Type} {cluster after : Cluster} {index depth : Nat}
  {connection giving taking : Connection} {stub : ChannelEnd} {Stands : Duty → α → Cluster → Prop}
  {finish : Cluster → FrameProgress → α × Cluster} {step : Option (α × Cluster)} {later : α}
  {duty giver taker : Duty} {payload : Bytes}

/-- A party that reads, and goes on reading unless it has come to the end of a frame. -/
theorem Acts.of_read {reading : FrameReading}
    (hStep : step = if stub.received = [] then none
      else some (finish (stub.afterRead cluster reading.missing)
        (reading.add connection.maxMessageSize (stub.received.take reading.missing))))
    (hGoing : ∀ next, ∃ later, Stands (take next) later (stub.afterRead cluster reading.missing) ∧
      finish (stub.afterRead cluster reading.missing) (.going next) =
        (later, stub.afterRead cluster reading.missing)) :
    (take reading).Acts cluster index connection depth stub Stands finish step := by
  by_cases hNone : stub.received = []
  · exact .waits hNone (hStep.trans (if_pos hNone))
  · rw [if_neg hNone] at hStep
    cases hAdd : reading.add connection.maxMessageSize (stub.received.take reading.missing) with
    | going next =>
        obtain ⟨later, hStands, hFinish⟩ := hGoing next
        rw [hAdd, hFinish] at hStep
        exact .takes hNone hAdd ⟨_, _, hStep, hStands,
          ⟨fun _ _ => rfl, fun _ _ => rfl, fun _ _ _ => rfl, rfl⟩, rfl⟩
    | complete payload => exact .ends hNone (by simp [hAdd]) hStep
    | failed error => exact .ends hNone (by simp [hAdd]) hStep

/-- A step of the giver brings the frame nearer to the taker. -/
theorem Acts.of_giver (hActs : giver.Acts cluster index connection depth stub Stands finish step)
    (hPasses : Passes payload connection taking giver taker stub.sent) (hNone : stub.received = [])
    (hStep : step = some (later, after)) :
    ∃ next sentNext, Passes payload connection taking next taker sentNext ∧
      (∀ takerDepth, passingCost depth takerDepth connection taking next taker sentNext <
        passingCost depth takerDepth connection taking giver taker stub.sent) ∧
      Stands next later after ∧ cluster.Spares after index connection.site ∧
      after.channels = { stub with sent := sentNext }.putIn cluster.channels := by
  cases hActs with
  | blocked hFull hStop => cases hStop.symm.trans hStep
  | @gives errand sentNext next hGives hGoes =>
      obtain ⟨_, _, hSome, hStands, hSpares, hChannels⟩ := hGoes
      cases hSome.symm.trans hStep
      refine ⟨next, sentNext, hPasses.of_gives hGives, fun takerDepth => ?_, hStands, hSpares,
        hChannels⟩
      have hCost := hGives.cost
      simp only [passingCost, hGives.due]
      change _ < _ + _ + (stub.sent ++ errand.due connection).length
      omega
  | waits hEmpty hStop => cases hStop.symm.trans hStep
  | takes hSome hAdd hGoes => exact absurd hNone hSome
  | ends hSome hEnds hLast => exact absurd hNone hSome

/-- A step of the taker brings the frame nearer to it as well, or the frame has passed. -/
theorem Acts.of_taker (hActs : taker.Acts cluster index connection depth stub Stands finish step)
    (hPasses : Passes payload giving connection giver taker stub.received) (hNone : stub.sent = [])
    (hLimit : payload.length ≤ connection.maxMessageSize)
    (hHeader : payload.length < byteRange headerWidth) (hStep : step = some (later, after)) :
    (∃ next receivedNext, Passes payload giving connection giver next receivedNext ∧
      (∀ giverDepth, passingCost giverDepth depth giving connection giver next receivedNext <
        passingCost giverDepth depth giving connection giver taker stub.received) ∧
      Stands next later after ∧ cluster.Spares after index connection.site ∧
      after.channels = { stub with received := receivedNext }.putIn cluster.channels) ∨
    (∃ reading, taker = take reading ∧ stub.received ≠ [] ∧ giver.due giving = [] ∧
      (later, after) = finish
        { cluster with channels := { stub with received := [] }.putIn cluster.channels }
        (.complete payload)) := by
  cases hActs with
  | blocked hFull hStop => cases hStop.symm.trans hStep
  | @gives errand sentNext next hGives hGoes =>
      obtain ⟨_, _, hSome, hStands, hSpares, hChannels⟩ := hGoes
      cases hSome.symm.trans hStep
      rw [hNone] at hGives
      obtain ⟨rfl, hNext⟩ := hPasses.of_rests hGives
      have hSame : { stub with sent := [] } = stub := by rw [← hNone]
      refine .inl ⟨next, stub.received, hNext, fun giverDepth => ?_, hStands, hSpares, ?_⟩
      · have hCost := hGives.cost
        simp only [passingCost]
        omega
      · rw [hChannels, hSame]
  | waits hEmpty hStop => cases hStop.symm.trans hStep
  | @takes reading next hSome hAdd hGoes =>
      obtain ⟨_, _, hMore, hStands, hSpares, hChannels⟩ := hGoes
      cases hMore.symm.trans hStep
      rcases hPasses.of_read hLimit hHeader with ⟨other, hOther, hNext⟩ | ⟨hComplete, -⟩
      · cases hOther.symm.trans hAdd
        refine .inl ⟨_, _, hNext, fun giverDepth => ?_, hStands, hSpares, hChannels⟩
        have hLength := List.length_pos_iff.2 hSome
        have hMissing := reading.missing_pos
        simp only [passingCost, cost, List.length_append, List.length_drop]
        omega
      · cases hComplete.symm.trans hAdd
  | @ends reading hSome hEnds hLast =>
      rcases hPasses.of_read hLimit hHeader with ⟨other, hOther, -⟩ | ⟨hComplete, hRest, hDue⟩
      · exact absurd hOther (hEnds other)
      · simp only [hComplete, ChannelEnd.afterRead, hRest] at hLast
        exact .inr ⟨reading, rfl, hSome, hDue, (Option.some.inj (hLast.symm.trans hStep)).symm⟩

/-- Whoever rests goes on resting. -/
theorem Acts.of_rests (hActs : duty.Acts cluster index connection depth stub Stands finish step)
    (hRests : duty.Rests connection) (hSent : stub.sent = []) (hNone : stub.received = [])
    (hStep : step = some (later, after)) :
    ∃ next : Duty, next.Rests connection ∧ next.cost depth connection < duty.cost depth connection ∧
      Stands next later after ∧ cluster.Spares after index connection.site ∧
      after.channels = stub.putIn cluster.channels := by
  cases hActs with
  | blocked hFull hStop => cases hStop.symm.trans hStep
  | @gives errand sentNext next hGives hGoes =>
      obtain ⟨_, _, hSome, hStands, hSpares, hChannels⟩ := hGoes
      cases hSome.symm.trans hStep
      rw [hSent] at hGives
      obtain ⟨rfl, hNext⟩ := hRests.gives hGives
      have hSame : { stub with sent := [] } = stub := by rw [← hSent]
      exact ⟨next, hNext, hGives.cost, hStands, hSpares, by rw [hChannels, hSame]⟩
  | waits hEmpty hStop => cases hStop.symm.trans hStep
  | takes hSome hAdd hGoes => exact absurd hNone hSome
  | ends hSome hEnds hLast => exact absurd hNone hSome

/-- Whoever has room to give does a step. -/
theorem Acts.steps_of_room {errand : Errand}
    (hActs : (give errand).Acts cluster index connection depth stub Stands finish step)
    (hRoom : stub.sent.length < stub.capacity) : ∃ later, step = some later := by
  cases hActs with
  | blocked hFull hStop => exact absurd hRoom (Nat.not_lt.2 hFull)
  | gives hGives hGoes =>
      obtain ⟨later, after, hSome, -⟩ := hGoes
      exact ⟨_, hSome⟩

/-- So does whoever has something to take. -/
theorem Acts.steps_of_received {reading : FrameReading}
    (hActs : (take reading).Acts cluster index connection depth stub Stands finish step)
    (hSome : stub.received ≠ []) : ∃ later, step = some later := by
  cases hActs with
  | waits hNone hStop => exact absurd hNone hSome
  | takes hSome hAdd hGoes =>
      obtain ⟨later, after, hMore, -⟩ := hGoes
      exact ⟨_, hMore⟩
  | ends hSome hEnds hLast => exact ⟨_, hLast⟩

/-- As long as a frame has not passed, its giver or its taker does a step. -/
theorem Passes.steps {β : Type} {other : ChannelEnd} {place depthOther : Nat}
    {StandsOther : Duty → β → Cluster → Prop} {finishOther : Cluster → FrameProgress → β × Cluster}
    {stepOther : Option (β × Cluster)}
    (hPasses : Passes payload giving taking giver taker stub.sent)
    (hGiver : giver.Acts cluster index giving depth stub Stands finish step)
    (hTaker : taker.Acts cluster place taking depthOther other StandsOther finishOther stepOther)
    (hReceived : other.received = stub.sent) (hNone : other.sent = []) (hRoom : 0 < stub.capacity)
    (hSame : other.capacity = stub.capacity) :
    (∃ later, step = some later) ∨ ∃ later, stepOther = some later := by
  cases taker with
  | give errand => exact .inr (hTaker.steps_of_room (by rw [hNone, hSame]; exact hRoom))
  | take reading =>
      by_cases hSent : stub.sent = []
      · cases giver with
        | give errand => exact .inl (hGiver.steps_of_room (by rw [hSent]; exact hRoom))
        | take first =>
            refine absurd ?_ (FrameReading.Expects.ne_nil hPasses.expects)
            rw [hSent]
            rfl
      · exact .inr (hTaker.steps_of_received (hReceived ▸ hSent))

end Duty

variable {cluster after : Cluster} {index : Nat} {connection : Connection} {site siteNext : Site}
  {stub : ChannelEnd} {duty : Duty}

/-! ### The requester -/

namespace Requesting

variable {processor : UInt32} {inlet : Inlet}

/-- What a request has left to do, when nobody else uses its connection. -/
inductive Stands (cluster : Cluster) (index : Nat) (connection : Connection) (site : Site)
    (inlet : Inlet) (processor : UInt32) : Requesting → Duty → Prop where
  | sending {transmission : Transmission} {errand : Errand}
      (hStands : transmission.Stands cluster index connection site errand) :
      Stands cluster index connection site inlet processor
        ⟨index, inlet, processor, .sending transmission⟩ (.give errand)
  | reading (reading : FrameReading) (hIdle : cluster.Idle index connection site) :
      Stands cluster index connection site inlet processor
        ⟨index, inlet, processor, .reading reading⟩ (.take reading)

theorem Stands.congr {requesting : Requesting}
    (hStands : requesting.Stands cluster index connection site inlet processor duty)
    (hKeep : ∀ holder ready, cluster.Keeps index connection site holder ready →
      after.Keeps index connection siteNext holder ready)
    (hStages : ∀ id, after.stage? index id = cluster.stage? index id) :
    requesting.Stands after index connection siteNext inlet processor duty := by
  cases hStands with
  | sending hStands => exact .sending (hStands.congr hKeep hStages)
  | reading reading hIdle => exact .reading reading (hKeep _ _ hIdle)

theorem step_sending {holder : Option SessionId} {ready : Pool → Prop}
    (hKeeps : cluster.Keeps index connection site holder ready) {transmission : Transmission}
    (hGoing : transmission.result? = none) :
    (⟨index, inlet, processor, .sending transmission⟩ : Requesting).step cluster =
      (transmission.step cluster).map fun (next, cluster) =>
        (⟨index, inlet, processor, .sending next⟩, cluster) := by
  cases transmission with
  | finished result => cases hGoing
  | _ => simp [step, hKeeps.here]

theorem step_reading (hIdle : cluster.Idle index connection site)
    (hAt : stub.At cluster.channels) (reading : FrameReading) :
    (⟨index, .channel stub.place stub.side, processor, .reading reading⟩ : Requesting).step cluster =
      if stub.received = [] then none
      else some (⟨index, .channel stub.place stub.side, processor,
          advance processor connection.version (reading.add connection.maxMessageSize
            (stub.received.take reading.missing))⟩, stub.afterRead cluster reading.missing) := by
  simp only [step, hIdle.here, Option.bind_some, ChannelEnd.read_eq hAt]
  by_cases hNone : stub.received = []
  · simp only [if_pos hNone]
  · simp only [if_neg hNone]
    rfl

/-- A request acts on its duty. -/
theorem Stands.acts (stub : ChannelEnd) {requesting : Requesting}
    (hStands : requesting.Stands cluster index connection site (.channel stub.place stub.side)
      processor duty)
    (hSucceeds : duty.Succeeds connection)
    (hOutlet : connection.outlet = .channel stub.place stub.side) (hAt : stub.At cluster.channels) :
    duty.Acts cluster index connection 1 stub
      (fun next later after =>
        later.Stands after index connection site (.channel stub.place stub.side) processor next)
      (fun after progress => (⟨index, .channel stub.place stub.side, processor,
        advance processor connection.version progress⟩, after))
      (requesting.step cluster) := by
  cases hStands with
  | @sending transmission errand hTransmission =>
      cases hResult : transmission.result? with
      | some result =>
          cases hTransmission with
          | finished result hIdle =>
              cases hSucceeds
              refine .gives (.turns 1 connection stub.sent) ⟨_, cluster, ?_, .reading .start hIdle,
                .refl _ _ _, (ChannelEnd.putIn_self hAt).symm⟩
              simp [step, hIdle.here, sent]
          | _ => cases hResult
      | none =>
          obtain ⟨holder, ready, hKeeps⟩ := hTransmission.keeps
          rw [step_sending hKeeps hResult]
          rcases hTransmission.step hResult (hOutlet ▸ ChannelEnd.obliging hAt) with
            ⟨hWaits, hStop⟩ | ⟨next, rest, channels, hStep, hGoes⟩
          · exact .blocked (ChannelEnd.full_of_waits hAt hOutlet hWaits) (by rw [hStop]; rfl)
          · obtain ⟨rfl, sentNext, rfl, hGives⟩ := Duty.Gives.of_step hStep hOutlet hAt hSucceeds
            refine .gives hGives (hGoes.map (fun next => (⟨index, .channel stub.place stub.side,
              processor, .sending next⟩ : Requesting)) ?_)
            intro later after hLater
            exact .sending hLater
  | reading reading hIdle =>
      exact .of_read (step_reading hIdle hAt reading) fun next =>
        ⟨_, .reading next (hIdle.congr rfl rfl), rfl⟩

end Requesting

/-! ### The server -/

namespace Serving

variable {inlet : Inlet}

/-- What a server has left to do, when nobody else uses its connection. -/
inductive Stands (cluster : Cluster) (index : Nat) (connection : Connection) (site : Site)
    (inlet : Inlet) : Serving → Duty → Prop where
  | replying {delivery : Delivery} {errand : Errand}
      (hStands : delivery.Stands cluster index connection site errand) :
      Stands cluster index connection site inlet ⟨index, inlet, .replying delivery⟩ (.give errand)
  | reading (reading : FrameReading) (hIdle : cluster.Idle index connection site) :
      Stands cluster index connection site inlet ⟨index, inlet, .reading reading⟩ (.take reading)

theorem Stands.congr {serving : Serving}
    (hStands : serving.Stands cluster index connection site inlet duty)
    (hKeep : ∀ holder ready, cluster.Keeps index connection site holder ready →
      after.Keeps index connection siteNext holder ready)
    (hSignal : siteNext.signal = site.signal)
    (hStages : ∀ id, after.stage? index id = cluster.stage? index id) :
    serving.Stands after index connection siteNext inlet duty := by
  cases hStands with
  | replying hStands => exact .replying (hStands.congr hKeep hSignal hStages)
  | reading reading hIdle => exact .reading reading (hKeep _ _ hIdle)

theorem Stands.keeps {serving : Serving}
    (hStands : serving.Stands cluster index connection site inlet duty) :
    ∃ holder ready, cluster.Keeps index connection site holder ready := by
  cases hStands with
  | replying hStands => exact hStands.keeps
  | reading reading hIdle => exact ⟨_, _, hIdle⟩

/-- What is made of a read does not depend on what was being read. -/
theorem advance_reading (reading : FrameReading) (progress : FrameProgress) :
    advance ⟨index, inlet, .reading reading⟩ cluster connection progress =
      advance ⟨index, inlet, .reading .start⟩ cluster connection progress := by
  cases progress with
  | going next => rfl
  | complete payload => simp only [advance, receive]
  | failed error => cases error <;> rfl

theorem step_taking (hIdle : cluster.Idle index connection site)
    (hAt : stub.At cluster.channels) (reading : FrameReading) :
    (⟨index, .channel stub.place stub.side, .reading reading⟩ : Serving).step cluster =
      if stub.received = [] then none
      else some (advance ⟨index, .channel stub.place stub.side, .reading .start⟩
        (stub.afterRead cluster reading.missing) connection
        (reading.add connection.maxMessageSize (stub.received.take reading.missing))) := by
  simp only [step, hIdle.here, Option.bind_some, ChannelEnd.read_eq hAt]
  by_cases hNone : stub.received = []
  · simp only [if_pos hNone]
  · simp only [if_neg hNone]
    rw [← advance_reading reading]
    rfl

/-- A server acts on its duty. -/
theorem Stands.acts (stub : ChannelEnd) {serving : Serving}
    (hStands : serving.Stands cluster index connection site (.channel stub.place stub.side) duty)
    (hSucceeds : duty.Succeeds connection)
    (hOutlet : connection.outlet = .channel stub.place stub.side) (hAt : stub.At cluster.channels) :
    duty.Acts cluster index connection 2 stub
      (fun next later after =>
        later.Stands after index connection site (.channel stub.place stub.side) next)
      (fun after progress => advance ⟨index, .channel stub.place stub.side, .reading .start⟩ after
        connection progress)
      (serving.step cluster) := by
  cases hStands with
  | @replying delivery errand hDelivery =>
      obtain ⟨holder, ready, hKeeps⟩ := hDelivery.keeps
      by_cases hEnd : ∃ sender result, delivery = .finished sender result
      · obtain ⟨sender, result, rfl⟩ := hEnd
        cases hDelivery with
        | @finished sender result hRecipient hIdle =>
            cases hSucceeds
            exact .gives (.turns 2 connection stub.sent) ⟨_, cluster, step_replied _ hKeeps.here _,
              .reading .start hIdle, .refl _ _ _, (ChannelEnd.putIn_self hAt).symm⟩
      · have hGoing : ∀ sender result, delivery ≠ .finished sender result := by
          intro sender result hSame
          exact hEnd ⟨sender, result, hSame⟩
        rw [step_replying _ hKeeps.here hGoing]
        rcases hDelivery.step hGoing (hOutlet ▸ ChannelEnd.obliging hAt) with
          ⟨hWaits, hStop⟩ | ⟨next, rest, channels, hStep, hGoes⟩
        · exact .blocked (ChannelEnd.full_of_waits hAt hOutlet hWaits) (by rw [hStop]; rfl)
        · obtain ⟨rfl, sentNext, rfl, hGives⟩ := Duty.Gives.of_step hStep hOutlet hAt hSucceeds
          refine .gives hGives (hGoes.map (fun next => (⟨index, .channel stub.place stub.side,
            .replying next⟩ : Serving)) ?_)
          intro later after hLater
          exact .replying hLater
  | reading reading hIdle =>
      exact .of_read (step_taking hIdle hAt reading) fun next =>
        ⟨_, .reading next (hIdle.congr rfl rfl), rfl⟩

end Serving

end ConfigExchange
