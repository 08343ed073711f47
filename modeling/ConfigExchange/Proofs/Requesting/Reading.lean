import ConfigExchange.Proofs.Cluster.Passage
import ConfigExchange.Proofs.Frame.Stream
import ConfigExchange.Proofs.Serving.Run

/-! How the answer to a request is read. Once the request was sent, one frame is read from the feed
that the answer comes on, in whatever pieces it arrives, and what the frame says is returned. -/
namespace ConfigExchange

open Cluster

namespace Feed

variable {limit : Nat} {reading : FrameReading} {feed rest : Feed}

/-- A frame of which nothing arrives any more. -/
theorem finishFrame_of_pending (hRead : feed.read reading.missing = (.pending, rest)) :
    feed.finishFrame limit reading = (none, rest) := by
  rw [finishFrame]
  split
  · next hFound =>
    cases hRead.symm.trans hFound
    rfl
  all_goals next hFound => cases hRead.symm.trans hFound

/-- The reading of a frame, after a read that brings something. -/
theorem finishFrame_of_read {answer : ReadAnswer}
    (hRead : feed.read reading.missing = (answer, rest)) (hSome : answer ≠ .pending) :
    feed.finishFrame limit reading = match reading.resume limit answer with
      | .going next => rest.finishFrame limit next
      | .complete payload => (some (.ok payload), rest)
      | .failed error => (some (.error error), rest) := by
  rw [finishFrame]
  split
  · next hFound =>
    cases hRead.symm.trans hFound
    exact absurd rfl hSome
  all_goals
    next hFound =>
      cases hRead.symm.trans hFound
      rfl

/-- What is read is a frame that the feed begins with. -/
theorem frame_of_readFrame {payload : Bytes}
    (hFrame : feed.readFrame limit = (some (.ok payload), rest)) :
    Admitted limit payload ∧ feed.chunks.flatten = frame payload ++ rest.chunks.flatten := by
  have hWithin : FrameReading.start.Within (longestPayload limit) := trivial
  obtain ⟨hLength, hFeed⟩ := flatten_of_finishFrame hWithin hFrame
  obtain ⟨hLimit, hHeader⟩ := of_le_longestPayload hLength
  exact ⟨⟨hLimit, hHeader⟩, hFeed⟩

/-- The frame that the feed begins with is read. -/
theorem readFrame_of_frame {payload tail : Bytes} (hAdmitted : Admitted limit payload)
    (hFeed : feed.chunks.flatten = frame payload ++ tail) :
    ∃ rest, feed.readFrame limit = (some (.ok payload), rest) ∧ rest.chunks.flatten = tail :=
  finishFrame_of_expects (FrameReading.expects_start payload) hAdmitted.limit hAdmitted.header hFeed

/-- A frame never comes only on a feed that stays silent. -/
theorem silent_of_readFrame (hFrame : (feed.readFrame limit).1 = none) : feed.ending = .silent := by
  have hEnding := feed.ending_finishFrame limit .start
  rcases hAll : feed.finishFrame limit .start with ⟨result, rest⟩
  rw [readFrame, hAll] at hFrame
  cases hFrame
  rwa [hAll] at hEnding

end Feed

/-- What came of a request, if it is over. -/
def Exchange.outcome? : Exchange → Option (Except ExchangeError Outcome)
  | requesting request => request.result?
  | _ => none

/-- What is left on the feed that a request reads its answer from. -/
def Exchange.left? : Exchange → Option Feed
  | requesting ⟨_, .feed feed, _, _⟩ => some feed
  | _ => none

namespace Requesting

/-- What is returned for what was read. -/
def answered (processor : UInt32) (version : Version) :
    Except FrameError Bytes → Except ExchangeError Outcome
  | .ok payload => accept processor version payload
  | .error error => .error (.frame error)

/-- How far the answer to a request has been read, after so many steps. The request was sent after
`first` of them. -/
inductive Reads (index : Nat) (base : Connection) (processor : UInt32) (feed : Feed) (first : Nat) :
    Nat → Exchange → Prop where
  | sent : Reads index base processor feed first first
      (.requesting ⟨index, .feed feed, processor, .sending (.finished (.ok ()))⟩)
  | reads {count : Nat} {rest : Feed} {reading : FrameReading}
      (hRest : rest.finishFrame base.maxMessageSize reading = feed.readFrame base.maxMessageSize)
      (hCount : count + rest.weight ≤ first + 1 + feed.weight) :
      Reads index base processor feed first count
        (.requesting ⟨index, .feed rest, processor, .reading reading⟩)
  | answered {count : Nat} {rest : Feed} {result : Except FrameError Bytes}
      (hFrame : feed.readFrame base.maxMessageSize = (some result, rest))
      (hCount : count ≤ first + 2 + feed.weight) :
      Reads index base processor feed first count
        (.requesting ⟨index, .feed rest, processor,
          .finished (Requesting.answered processor base.version result)⟩)

variable {cluster later : Cluster} {index first count : Nat} {base : Connection}
  {processor : UInt32} {feed : Feed} {exchange next : Exchange}

/-- A request that is over stays as it is. -/
theorem step_of_outcome? {result : Except ExchangeError Outcome}
    (hOutcome : exchange.outcome? = some result) (cluster : Cluster) :
    exchange.step cluster = none := by
  cases exchange with
  | requesting request =>
      obtain ⟨place, inlet, processor, stage⟩ := request
      cases stage with
      | finished => cases hConnection : cluster.connections[place]? <;>
          simp [Exchange.step, step, hConnection]
      | sending | reading => cases hOutcome
  | sending | answering | serving => cases hOutcome

/-- A read that brings something is taken up. -/
theorem step_reads (hBears : cluster.Bears index base) {reading : FrameReading} {rest left : Feed}
    {answer : ReadAnswer} (hRead : rest.read reading.missing = (answer, left))
    (hSome : answer ≠ .pending) :
    (Exchange.requesting ⟨index, .feed rest, processor, .reading reading⟩).step cluster =
      some (.requesting ⟨index, .feed left, processor,
        advance processor base.version (reading.resume base.maxMessageSize answer)⟩, cluster) := by
  obtain ⟨connection, socket, hConnection, -, hBase⟩ := hBears.present
  have hVersion : connection.version = base.version := by rw [hBase]
  have hSize : connection.maxMessageSize = base.maxMessageSize := by rw [hBase]
  rw [← hVersion, ← hSize]
  simp only [Exchange.step, step, hConnection, Option.bind_some, Inlet.read]
  rw [hRead]
  cases answer with
  | pending => exact absurd rfl hSome
  | data | ended | failed => rfl

/-- The reading of an answer goes on, or it has nothing to read on a feed that stays silent. -/
theorem Reads.proceeds (hReads : Reads index base processor feed first count exchange)
    (hBears : cluster.Bears index base) :
    exchange.outcome?.isSome = true ∨
      (exchange.step cluster = none ∧ (feed.readFrame base.maxMessageSize).1 = none ∧
        ∃ rest, exchange.left? = some rest ∧ rest.chunks.flatten = []) ∨
      ∃ next, exchange.step cluster = some (next, cluster) ∧
        Reads index base processor feed first (count + 1) next := by
  obtain ⟨connection, socket, hConnection, -⟩ := hBears.present
  cases hReads with
  | sent =>
      refine .inr (.inr ⟨.requesting ⟨index, .feed feed, processor, .reading .start⟩, ?_,
        .reads rfl (Nat.le_refl _)⟩)
      simp [Exchange.step, step, hConnection, Requesting.sent]
  | @reads _ rest reading hRest hCount =>
      refine .inr ?_
      -- Whatever a read brings, the frame that comes of it is the same.
      rcases hRead : rest.read reading.missing with ⟨answer, left⟩
      by_cases hPending : answer = .pending
      · subst hPending
        have hBytes := rest.read_cases reading.missing_pos
        rw [hRead] at hBytes
        refine .inl ⟨?_, by rw [← hRest, Feed.finishFrame_of_pending hRead], rest, rfl, hBytes.1⟩
        simp [Exchange.step, step, hConnection, Inlet.read, hRead]
      · refine .inr ⟨_, step_reads hBears hRead hPending, ?_⟩
        have hNext := hRest.symm.trans (Feed.finishFrame_of_read hRead hPending)
        cases hResume : reading.resume base.maxMessageSize answer with
        | going next =>
            rw [hResume] at hNext
            have hMore : answer ≠ .ended := by
              rintro rfl
              cases hResume
            have hLess := Feed.weight_read_lt hRead reading.missing_pos hMore hPending
            exact .reads hNext.symm (by omega)
        | complete payload =>
            rw [hResume] at hNext
            exact .answered hNext (by omega)
        | failed error =>
            rw [hResume] at hNext
            exact .answered hNext (by omega)
  | answered => exact .inl rfl

/-- What is accepted is the answer to this request. -/
theorem accept_eq_ok_iff {version : Version} {payload : Bytes} {outcome : Outcome} :
    accept processor version payload = .ok outcome ↔
      Message.decode version payload = .ok (.configurationResponse processor outcome) := by
  unfold accept
  split
  · next hDecode => simp [hDecode]
  · next received found hDecode =>
    rw [hDecode]
    by_cases hSame : received = processor
    · simp [hSame]
    · simp [hSame]
  · next other hOther hDecode =>
    simp only [hDecode, Except.ok.injEq, false_iff, reduceCtorEq]
    exact hOther processor outcome

/-- What a request that was sent comes to, when there is nothing more to do for it. -/
structure Answered (base : Connection) (processor : UInt32) (feed : Feed) (exchange : Exchange) :
    Prop where
  /-- An outcome is returned exactly if the stream begins with the answer to this request. -/
  own : ∀ outcome, exchange.outcome? = some (.ok outcome) ↔
    ∃ payload tail, Admitted base.maxMessageSize payload ∧
      feed.chunks.flatten = frame payload ++ tail ∧
      Message.decode base.version payload = .ok (.configurationResponse processor outcome)
  /-- From a stream that begins with a frame that frame is taken, and nothing else. If it is not the
  answer to this request, it is told why. -/
  taken : ∀ payload tail, Admitted base.maxMessageSize payload →
    feed.chunks.flatten = frame payload ++ tail →
      (∃ rest, exchange.left? = some rest ∧ rest.chunks.flatten = tail) ∧
      (∀ received outcome, received ≠ processor →
        Message.decode base.version payload = .ok (.configurationResponse received outcome) →
          exchange.outcome? = some (.error (.processorMismatch processor received))) ∧
      (∀ message, message.kind ≠ .configurationResponse →
        Message.decode base.version payload = .ok message →
          exchange.outcome? =
            some (.error (.unexpectedMessage .configurationResponse message.kind))) ∧
      (∀ error, Message.decode base.version payload = .error error →
        exchange.outcome? = some (.error (.decode error)))
  /-- From any other stream no frame is read, or it is waited for what never arrives. -/
  other : (∀ payload tail, Admitted base.maxMessageSize payload →
    feed.chunks.flatten ≠ frame payload ++ tail) →
      (∃ error, exchange.outcome? = some (.error (.frame error))) ∨
        exchange.outcome? = none ∧ feed.ending = .silent ∧
          ∃ rest, exchange.left? = some rest ∧ rest.chunks.flatten = []

/-- A request that was sent is answered with what is read. -/
theorem answered_of_frame {rest : Feed} {result : Except FrameError Bytes}
    (hFrame : feed.readFrame base.maxMessageSize = (some result, rest))
    (hOutcome : exchange.outcome? = some (answered processor base.version result))
    (hLeft : exchange.left? = some rest) : Answered base processor feed exchange where
  own := by
    intro outcome
    rw [hOutcome, Option.some_inj]
    constructor
    · intro hResult
      cases result with
      | error => cases hResult
      | ok payload =>
          obtain ⟨hAdmitted, hFeed⟩ := Feed.frame_of_readFrame hFrame
          exact ⟨payload, _, hAdmitted, hFeed, accept_eq_ok_iff.1 hResult⟩
    · rintro ⟨payload, tail, hAdmitted, hFeed, hDecode⟩
      obtain ⟨left, hRead, -⟩ := Feed.readFrame_of_frame hAdmitted hFeed
      cases hFrame.symm.trans hRead
      exact accept_eq_ok_iff.2 hDecode
  taken := by
    intro payload tail hAdmitted hFeed
    obtain ⟨left, hRead, hTail⟩ := Feed.readFrame_of_frame hAdmitted hFeed
    cases hFrame.symm.trans hRead
    refine ⟨⟨rest, hLeft, hTail⟩, fun received outcome hOther hDecode => ?_,
      fun message hKind hDecode => ?_, fun error hDecode => ?_⟩
    · simp [hOutcome, answered, accept, hDecode, hOther]
    · cases message with
      | configurationResponse => exact absurd rfl hKind
      | versionRequest | versionResponse | configurationRequest | reply =>
          simp [hOutcome, answered, accept, hDecode]
    · simp [hOutcome, answered, accept, hDecode]
  other := by
    intro hNone
    cases result with
    | error error => exact .inl ⟨error, hOutcome⟩
    | ok payload =>
        obtain ⟨hAdmitted, hFeed⟩ := Feed.frame_of_readFrame hFrame
        exact absurd hFeed (hNone payload _ hAdmitted)

/-- A request that was sent waits for a frame that never comes. -/
theorem answered_of_silence (hFrame : (feed.readFrame base.maxMessageSize).1 = none)
    (hOutcome : exchange.outcome? = none)
    (hLeft : ∃ rest, exchange.left? = some rest ∧ rest.chunks.flatten = []) :
    Answered base processor feed exchange := by
  have hNever (payload tail : Bytes) (hAdmitted : Admitted base.maxMessageSize payload) :
      feed.chunks.flatten ≠ frame payload ++ tail := by
    intro hFeed
    obtain ⟨left, hRead, -⟩ := Feed.readFrame_of_frame hAdmitted hFeed
    rw [hRead] at hFrame
    cases hFrame
  refine ⟨fun outcome => ?_, fun payload tail hAdmitted hFeed =>
    absurd hFeed (hNever payload tail hAdmitted),
    fun _ => .inr ⟨hOutcome, Feed.silent_of_readFrame hFrame, hLeft⟩⟩
  simp only [hOutcome, reduceCtorEq, false_iff]
  rintro ⟨payload, tail, hAdmitted, hFeed, -⟩
  exact hNever payload tail hAdmitted hFeed

theorem Reads.ended (hReads : Reads index base processor feed first count exchange)
    (hBears : cluster.Bears index base)
    (hOver : exchange.outcome?.isSome = true ∨ exchange.step cluster = none) :
    Answered base processor feed exchange := by
  cases hOutcome : exchange.outcome? with
  | some result =>
      cases hReads with
      | answered hFrame => exact answered_of_frame hFrame rfl rfl
      | sent | reads => cases hOutcome
  | none =>
      rw [hOutcome] at hOver
      have hNone := hOver.resolve_left (by simp)
      rcases hReads.proceeds hBears with hSome | ⟨-, hFrame, hLeft⟩ | ⟨next, hStep, -⟩
      · rw [hOutcome] at hSome
        cases hSome
      · exact answered_of_silence hFrame hOutcome hLeft
      · cases hNone.symm.trans hStep

/-- A step that reads, or begins to. -/
theorem Reads.step (hReads : Reads index base processor feed first count exchange)
    (hBears : cluster.Bears index base) (hStep : exchange.step cluster = some (next, later)) :
    later = cluster ∧ Reads index base processor feed first (count + 1) next := by
  rcases hReads.proceeds hBears with hSome | ⟨hNone, -⟩ | ⟨other, hNext, hOn⟩
  · obtain ⟨result, hOutcome⟩ := Option.isSome_iff_exists.1 hSome
    cases (step_of_outcome? hOutcome _).symm.trans hStep
  · cases hNone.symm.trans hStep
  · cases hNext.symm.trans hStep
    exact ⟨rfl, hOn⟩

end Requesting

end ConfigExchange
