import ConfigExchange.Proofs.Frame.Reading
import ConfigExchange.Proofs.Serving.Reply
import Mathlib.Logic.Relation

/-! Runs of the serving of a connection: how a frame is read from a feed, and how a reply is sent to
the end on a socket that takes everything. -/
namespace ConfigExchange

/-! ### Feeds -/

/-- Bytes that are read are a failure only if they announce too much. -/
theorem FrameReading.add_failed {limit : Nat} {reading : FrameReading} {bytes : Bytes}
    {error : FrameError} (hAdd : reading.add limit bytes = .failed error) :
    ∃ length, error = .tooLarge length limit := by
  cases reading with
  | header got short =>
      simp only [add] at hAdd
      split at hAdd
      · cases hAdd
      · split at hAdd
        · cases hAdd
          exact ⟨_, rfl⟩
        · split at hAdd <;> cases hAdd
  | payload missing pieces more =>
      simp only [add] at hAdd
      split at hAdd <;> cases hAdd

namespace Feed

/-- What a read says of the end of a feed. -/
theorem ending_read (feed : Feed) (n : Nat) :
    match feed.read n with
    | (.data _, rest) => rest.ending = feed.ending
    | (.ended, _) => feed.ending = .ended
    | (.failed _, rest) => feed.ending ≠ .silent ∧ rest.ending = .ended
    | (.pending, _) => feed.ending = .silent := by
  obtain ⟨chunks, ending⟩ := feed
  simp only [read]
  induction chunks with
  | nil => cases ending <;> simp [readChunks]
  | cons chunk chunks ih =>
      cases chunk with
      | nil => exact ih
      | cons byte bytes => rfl

/-- What the reading of a frame says of the end of a feed. -/
theorem ending_finishFrame (limit : Nat) (reading : FrameReading) (feed : Feed) :
    match feed.finishFrame limit reading with
    | (none, _) => feed.ending = .silent
    | (some (.error .closed), _) => ¬ feed.ending = .silent
    | (some (.error _), _) => True
    | (some (.ok _), rest) => rest.ending = .silent ↔ feed.ending = .silent := by
  have hEnding := feed.ending_read reading.missing
  fun_induction finishFrame limit reading feed with
  | case1 reading feed rest hRead =>
      rwa [hRead] at hEnding
  | case2 reading feed rest hRead =>
      rw [hRead] at hEnding
      simp only at hEnding
      cases reading <;> simp [FrameReading.endError, hEnding]
  | case3 reading feed bytes rest hRead hLess next hAdd ih =>
      rw [hRead] at hEnding
      simp only at hEnding
      have hRest := ih (rest.ending_read next.missing)
      rwa [hEnding] at hRest
  | case4 reading feed bytes rest hRead hLess payload hAdd =>
      rw [hRead] at hEnding
      simp only at hEnding
      simp [hEnding]
  | case5 reading feed bytes rest hRead hLess error hAdd =>
      obtain ⟨length, rfl⟩ := FrameReading.add_failed hAdd
      trivial
  | case6 reading feed error rest hRead hLess next hFail ih =>
      rw [hRead] at hEnding
      simp only at hEnding
      have hSame : (rest.ending = .silent) = (feed.ending = .silent) := by simp [hEnding]
      have hRest := ih (rest.ending_read next.missing)
      rwa [hSame] at hRest
  | case7 reading feed error rest hRead hLess payload hFail =>
      rw [hRead] at hEnding
      simp only at hEnding
      simp [hEnding]
  | case8 reading feed error rest hRead hLess failure hFail =>
      rw [hRead] at hEnding
      simp only at hEnding
      cases failure with
      | closed => exact hEnding.1
      | _ => trivial

/-- The payloads of the frames on a feed. -/
def payloads (limit : Nat) (feed : Feed) : List Bytes :=
  (feed.frames limit).filterMap fun item => item.toOption

/-- How the frames on a feed end, if they do: with the stream, or with an error. -/
def conclusion (limit : Nat) (feed : Feed) : Option (Except FrameError Unit) :=
  match (feed.frames limit).getLast? with
  | some (.error error) => some (.error error)
  | _ => if feed.ending = .silent then none else some (.ok ())

/-- What the first frame on a feed says of its payloads and of its end. -/
theorem payloads_cases (limit : Nat) (feed : Feed) :
    match feed.readFrame limit with
    | (none, _) => feed.payloads limit = [] ∧ feed.conclusion limit = none
    | (some (.error .closed), _) =>
      feed.payloads limit = [] ∧ feed.conclusion limit = some (.ok ())
    | (some (.error error), _) =>
      feed.payloads limit = [] ∧ feed.conclusion limit = some (.error error)
    | (some (.ok payload), rest) => feed.payloads limit = payload :: rest.payloads limit ∧
      feed.conclusion limit = rest.conclusion limit := by
  have hEnding := feed.ending_finishFrame limit .start
  have hFrames := feed.frames_eq limit
  change match feed.readFrame limit with
    | (none, _) => feed.ending = .silent
    | (some (.error .closed), _) => ¬ feed.ending = .silent
    | (some (.error _), _) => True
    | (some (.ok _), rest) => rest.ending = .silent ↔ feed.ending = .silent at hEnding
  revert hEnding hFrames
  cases feed.readFrame limit with
  | mk result rest =>
      intro hFrames hEnding
      unfold payloads conclusion
      rcases result with _ | error | payload
      · simp_all
      · cases error <;> simp_all [Except.toOption]
      · simp only at hFrames hEnding ⊢
        rw [hFrames, List.getLast?_cons]
        refine ⟨rfl, ?_⟩
        cases rest.frames limit |>.getLast? <;> simp [hEnding]

end Feed

/-! ### Sockets -/

namespace Socket

theorem Accepting.obliging {socket : Socket} (hAccepting : socket.Accepting)
    (channels : Channels) : (Outlet.socket socket).Obliging channels where
  write := by
    intro bytes hBytes
    obtain ⟨taken, later, hWrite, hTaken, hSome, -⟩ := hAccepting.write hBytes
    exact .inr ⟨taken, .socket later, channels, hTaken, hSome, by simp [Outlet.call, call, hWrite]⟩
  flush := by
    obtain ⟨later, hFlush, -⟩ := hAccepting.flush
    exact ⟨.socket later, channels, by simp [Outlet.call, call, hFlush]⟩

/-- What a step of an errand writes has been accepted. -/
theorem Accepting.step {socket : Socket} (hAccepting : socket.Accepting) {depth : Nat}
    {connection next : Connection} {channels later : Channels} {errand rest : Errand}
    (hOutlet : connection.outlet = .socket socket)
    (hStep : Errand.Step depth connection channels errand next rest later) :
    ∃ socketNext, next = { connection with outlet := .socket socketNext } ∧ socketNext.Accepting ∧
      socketNext.accepted ++ rest.due next = socket.accepted ++ errand.due connection := by
  obtain ⟨-, ⟨rfl, -, hDue⟩ | ⟨bytes, taken, outlet, hCall, hTaken, hSome, rfl, hDue⟩ |
    ⟨outlet, hCall, rfl, hDue⟩⟩ := hStep.due_eq
  · exact ⟨socket, by rw [← hOutlet], hAccepting, by rw [hDue]⟩
  · have hBytes : bytes ≠ [] := by
      rintro rfl
      exact hSome (List.prefix_nil.1 hTaken)
    obtain ⟨front, socketNext, hWrite, hFront, -, hNext, hAccepted⟩ := hAccepting.write hBytes
    simp only [hOutlet, Outlet.call, call, hWrite, Prod.mk.injEq,
      CallAnswer.accepted.injEq] at hCall
    obtain ⟨hLength, rfl, rfl⟩ := hCall
    have hSame : front = taken :=
      (List.prefix_of_prefix_length_le hFront hTaken (Nat.le_of_eq hLength)).eq_of_length hLength
    exact ⟨socketNext, rfl, hNext, by rw [hAccepted, hSame, hDue, List.append_assoc]⟩
  · obtain ⟨socketNext, hFlush, hNext, hAccepted⟩ := hAccepting.flush
    simp only [hOutlet, Outlet.call, call, hFlush, Prod.mk.injEq] at hCall
    obtain ⟨-, rfl, rfl⟩ := hCall
    exact ⟨socketNext, rfl, hNext, by rw [hAccepted, hDue]⟩

end Socket

/-! ### Runs -/

namespace Serving

/-- One step of the serving. -/
def Steps (before after : Serving × Cluster) : Prop := before.1.step before.2 = some after

/-- Steps one after the other. -/
abbrev Runs : Serving × Cluster → Serving × Cluster → Prop := Relation.ReflTransGen Steps

variable {cluster : Cluster} {index : Nat} {connection : Connection} {site : Site}

/-- What comes of reading a frame from some state of the serving. -/
def Reads (cluster : Cluster) (index : Nat) (connection : Connection) (serving : Serving) :
    Option (Except FrameError Bytes) × Feed → Prop
  | (none, _) => ∃ last : Serving, Runs (serving, cluster) (last, cluster) ∧
      last.step cluster = none ∧ last.result? = none
  | (some (.ok payload), rest) => Runs (serving, cluster)
      (receive ⟨index, .feed rest, .reading .start⟩ cluster connection payload)
  | (some (.error error), rest) => Runs (serving, cluster)
      (advance ⟨index, .feed rest, .reading .start⟩ cluster connection (.failed error))

theorem Reads.head {before after : Serving} {answer : Option (Except FrameError Bytes) × Feed}
    (hStep : Steps (before, cluster) (after, cluster))
    (hReads : Reads cluster index connection after answer) :
    Reads cluster index connection before answer := by
  obtain ⟨_ | error | payload, rest⟩ := answer
  · obtain ⟨last, hRuns, hLast⟩ := hReads
    exact ⟨last, .head hStep hRuns, hLast⟩
  · exact Relation.ReflTransGen.head hStep hReads
  · exact Relation.ReflTransGen.head hStep hReads

/-- A read that brings something is taken up. -/
theorem step_reading (hConnection : cluster.connections[index]? = some connection)
    {reading : FrameReading} {feed rest : Feed} {answer : ReadAnswer}
    (hRead : feed.read reading.missing = (answer, rest)) (hNow : answer ≠ .pending) :
    Steps (⟨index, .feed feed, .reading reading⟩, cluster)
      (advance ⟨index, .feed rest, .reading reading⟩ cluster connection
        (reading.resume connection.maxMessageSize answer)) := by
  simp only [Steps, step, hConnection, Inlet.read, Option.bind_some]
  rw [hRead]
  cases answer with
  | pending => exact absurd rfl hNow
  | data | ended | failed => rfl

/-- A frame is read to its end, or as far as the feed goes. -/
theorem reads_finishFrame (hConnection : cluster.connections[index]? = some connection)
    (reading : FrameReading) (feed : Feed) :
    Reads cluster index connection ⟨index, .feed feed, .reading reading⟩
      (feed.finishFrame connection.maxMessageSize reading) := by
  refine Feed.finishFrame_induction (motive := fun reading feed =>
    Reads cluster index connection ⟨index, .feed feed, .reading reading⟩) ?_ ?_ ?_ ?_ reading feed
  · intro reading feed rest hRead
    refine ⟨_, .refl, ?_, rfl⟩
    simp only [step, hConnection, Inlet.read, hRead, Option.bind_some]
  · intro reading feed answer rest next hRead hSome hResume _ hRest
    have hStep := step_reading hConnection hRead hSome
    rw [hResume] at hStep
    exact hRest.head hStep
  · intro reading feed answer rest payload hRead hSome hResume
    have hStep := step_reading hConnection hRead hSome
    rw [hResume] at hStep
    exact .single hStep
  · intro reading feed answer rest error hRead hSome hResume
    have hStep := step_reading hConnection hRead hSome
    rw [hResume] at hStep
    exact .single hStep

/-- A reply is sent to its end on a socket that takes everything. -/
theorem runs_reply {socket : Socket} (hAccepting : socket.Accepting)
    (hOutlet : connection.outlet = .socket socket) {delivery : Delivery} {errand : Errand}
    (hStands : delivery.Stands cluster index connection site errand) (inlet : Inlet) :
    ∃ (sender : Sender) (after : Cluster) (socketNext : Socket),
      sender.recipient = connection.remote ∧
      Runs (⟨index, inlet, .replying delivery⟩, cluster) (⟨index, inlet, .replying (.finished
        (sender.conclude (errand.outcome connection)).2
        (sender.conclude (errand.outcome connection)).1)⟩, after) ∧
      after.Idle index { connection with outlet := .socket socketNext } site ∧
      cluster.Spares after index connection.site ∧ socketNext.Accepting ∧
      socketNext.accepted = socket.accepted ++ errand.due connection := by
  induction hCost : errand.cost 2 connection using Nat.strongRecOn
    generalizing cluster connection socket delivery errand with
  | ind cost ih =>
      by_cases hEnd : ∃ sender result, delivery = .finished sender result
      · obtain ⟨sender, result, rfl⟩ := hEnd
        cases hStands with
        | @finished sender result hRecipient hIdle =>
            refine ⟨sender, cluster, socket, hRecipient, .refl, ?_, .refl _ _ _, hAccepting, ?_⟩
            · rw [← hOutlet]
              exact hIdle
            · simp [Errand.due]
      · have hGoing : ∀ sender result, delivery ≠ .finished sender result := by
          intro sender result hSame
          exact hEnd ⟨sender, result, hSame⟩
        rcases hStands.step hGoing (by rw [hOutlet]; exact hAccepting.obliging _) with
          ⟨⟨bytes, hBytes, hPending⟩, -⟩ | ⟨next, rest, channels, hErrand, later, after, hStep, hLater,
            hSpares, -⟩
        · obtain ⟨taken, socketNext, hWrite, -⟩ := hAccepting.write hBytes
          simp [hOutlet, Outlet.call, Socket.call, hWrite] at hPending
        · obtain ⟨socketNext, rfl, hNext, hWritten⟩ := hAccepting.step hOutlet hErrand
          obtain ⟨sender, last, socketLast, hRecipient, hRuns, hIdle, hSparesLast, hLast,
              hAccepted⟩ :=
            ih _ (hCost ▸ hErrand.cost_lt) hNext rfl hLater rfl
          obtain ⟨holder, ready, hKeeps⟩ := hStands.keeps
          refine ⟨sender, last, socketLast, hRecipient, .head ?_ (hErrand.due_eq.1 ▸ hRuns), hIdle,
            hSpares.trans hSparesLast, hLast, by rw [hAccepted, hWritten]⟩
          rw [Steps, step_replying inlet hKeeps.here hGoing, hStep]
          rfl

end Serving

end ConfigExchange
