import ConfigExchange.Frame.Sending

/-! What one call makes of a frame that is being sent: the socket accepts some bytes from the front
of what is left, and whoever sends the frame goes on with the others. -/
namespace ConfigExchange

/-- What is left to send of a frame. -/
def FrameSending.left (sending : FrameSending) : Bytes := sending.header ++ sending.payload

namespace Socket

/-- A write takes some bytes from the front, or takes none and has not succeeded. -/
theorem write_cases (socket : Socket) (bytes : Bytes) :
    (∃ taken rest, bytes = taken ++ rest ∧ (socket.write bytes).1 = .accepted taken.length ∧
      (socket.write bytes).2.accepted = socket.accepted ++ taken) ∨
    (socket.write bytes).2.accepted = socket.accepted ∧
      ((∃ error, (socket.write bytes).1 = .failed error) ∨ (socket.write bytes).1 = .pending) := by
  unfold write
  cases hAction : nextAction socket.script.writes with
  | mk action writes =>
      cases action with
      | succeed =>
          refine .inl ⟨bytes.take bytes.length, bytes.drop bytes.length, ?_, rfl, rfl⟩
          exact (List.take_append_drop _ _).symm
      | accept limit =>
          refine .inl ⟨bytes.take limit, bytes.drop limit, ?_, rfl, rfl⟩
          exact (List.take_append_drop _ _).symm
      | fail kind => exact .inr ⟨rfl, .inl ⟨_, rfl⟩⟩
      | stall => exact .inr ⟨rfl, .inr rfl⟩

/-- A flush takes nothing. -/
theorem flush_cases (socket : Socket) :
    socket.flush.2.accepted = socket.accepted ∧ (socket.flush.1 = .done ∨
      (∃ error, socket.flush.1 = .failed error) ∨ socket.flush.1 = .pending) := by
  unfold flush
  cases hAction : nextAction socket.script.flushes with
  | mk action flushes =>
      cases action with
      | succeed => exact ⟨rfl, .inl rfl⟩
      | accept limit => exact ⟨rfl, .inl rfl⟩
      | fail kind => exact ⟨rfl, .inr (.inl ⟨_, rfl⟩)⟩
      | stall => exact ⟨rfl, .inr (.inr rfl)⟩

theorem accepted_shutdown (socket : Socket) : socket.shutdown.2.accepted = socket.accepted := by
  unfold shutdown
  cases hAction : nextAction socket.script.shutdowns with
  | mk action shutdowns => cases action <;> rfl

theorem accepted_unstall (socket : Socket) : socket.unstall.accepted = socket.accepted := by
  unfold unstall
  simp only
  split
  · rfl
  · split
    · rfl
    · split <;> rfl

/-- A socket that takes everything it is given, in whatever portions. -/
structure Accepting (socket : Socket) : Prop where
  writes : ∀ action ∈ socket.script.writes,
    action = .succeed ∨ ∃ limit, 0 < limit ∧ action = .accept limit
  flushes : ∀ action ∈ socket.script.flushes, action = .succeed ∨ ∃ limit, action = .accept limit

theorem nextAction_cases (actions : List SocketAction) :
    nextAction actions = (.succeed, []) ∧ actions = [] ∨
      ∃ action rest, nextAction actions = (action, rest) ∧ actions = action :: rest := by
  cases actions with
  | nil => exact .inl ⟨rfl, rfl⟩
  | cons action rest => exact .inr ⟨action, rest, rfl, rfl⟩

/-- A write takes a portion of what it is given. -/
theorem Accepting.write {socket : Socket} (hAccepting : socket.Accepting) {bytes : Bytes}
    (hBytes : bytes ≠ []) :
    ∃ taken later, socket.write bytes = (.accepted taken.length, later) ∧ taken <+: bytes ∧
      taken ≠ [] ∧ later.Accepting ∧ later.accepted = socket.accepted ++ taken := by
  unfold Socket.write
  rcases nextAction_cases socket.script.writes with ⟨hNext, hNone⟩ | ⟨action, rest, hNext, hWrites⟩
  · simp only [hNext, Socket.take]
    refine ⟨_, _, rfl, List.take_prefix _ _, by simpa using hBytes, ⟨?_, hAccepting.flushes⟩, rfl⟩
    intro action hAction
    cases hAction
  · have hRest : ∀ later ∈ rest, later = .succeed ∨ ∃ limit, 0 < limit ∧ later = .accept limit := by
      intro later hLater
      exact hAccepting.writes later (by rw [hWrites]; exact List.mem_cons_of_mem _ hLater)
    simp only [hNext]
    rcases hAccepting.writes action (by simp [hWrites]) with rfl | ⟨limit, hLimit, rfl⟩
    · refine ⟨_, _, rfl, List.take_prefix _ _, by simpa using hBytes,
        ⟨hRest, hAccepting.flushes⟩, rfl⟩
    · refine ⟨_, _, rfl, List.take_prefix _ _, ?_, ⟨hRest, hAccepting.flushes⟩, rfl⟩
      simp [hBytes, Nat.ne_of_gt hLimit]

/-- A flush takes nothing. -/
theorem Accepting.flush {socket : Socket} (hAccepting : socket.Accepting) :
    ∃ later, socket.flush = (.done, later) ∧ later.Accepting ∧
      later.accepted = socket.accepted := by
  unfold Socket.flush
  rcases nextAction_cases socket.script.flushes with
    ⟨hNext, hNone⟩ | ⟨action, rest, hNext, hFlushes⟩
  · simp only [hNext]
    refine ⟨_, rfl, ⟨hAccepting.writes, ?_⟩, rfl⟩
    intro action hAction
    cases hAction
  · have hRest : ∀ later ∈ rest, later = .succeed ∨ ∃ limit, later = .accept limit := by
      intro later hLater
      exact hAccepting.flushes later (by rw [hFlushes]; exact List.mem_cons_of_mem _ hLater)
    simp only [hNext]
    rcases hAccepting.flushes action (by simp [hFlushes]) with rfl | ⟨limit, rfl⟩
    · exact ⟨_, rfl, ⟨hAccepting.writes, hRest⟩, rfl⟩
    · exact ⟨_, rfl, ⟨hAccepting.writes, hRest⟩, rfl⟩

end Socket

namespace FrameSending

/-- What a call made of a sending: the socket has accepted the front of what was left, and the
sender goes on with the others. If it is done nothing is left, and if it fails nothing was taken. -/
def Resumes (sending : FrameSending) (before after : Bytes) (progress : SendProgress) : Prop :=
  ∃ taken, after = before ++ taken ∧
    match progress with
    | .going next => sending.left = taken ++ next.left
    | .complete => taken = [] ∧ sending.left = []
    | .failed _ => taken = []

/-- An answer that comes with no bytes is waited for, taken up again, or a failure. -/
theorem resumes_nothing {sending : FrameSending} {accepted : Bytes} {answer : CallAnswer}
    (hAnswer : (∃ error, answer = .failed error) ∨ answer = .pending) :
    Resumes sending accepted accepted (sending.resume answer) := by
  refine ⟨[], (List.append_nil _).symm, ?_⟩
  rcases hAnswer with ⟨error, rfl⟩ | rfl
  · by_cases hAgain : sending.isWriting ∧ error.kind = .interrupted
    · simp [resume, hAgain]
    · simp [resume, hAgain]
  · simp [resume]

theorem resumes_write {sending : FrameSending} (bytes tail : Bytes) (socket : Socket)
    (hNext : sending.next = .write bytes)
    (hLeft : sending.left = bytes ++ tail)
    (hAdvance : ∀ taken rest, bytes = taken ++ rest →
      (sending.advance taken.length).left = rest ++ tail) :
    Resumes sending socket.accepted (socket.call sending.next).2.accepted
      (sending.resume (socket.call sending.next).1) := by
  rw [hNext]
  show Resumes sending _ (socket.write bytes).2.accepted (sending.resume (socket.write bytes).1)
  rcases socket.write_cases bytes with ⟨taken, rest, hBytes, hAnswer, hAccepted⟩ | ⟨hSame, hAnswer⟩
  · rw [hAnswer, hAccepted]
    refine ⟨taken, rfl, ?_⟩
    cases hCount : taken.length with
    | zero => exact List.length_eq_zero_iff.1 hCount
    | succ count =>
        show sending.left = taken ++ (sending.advance (count + 1)).left
        rw [← hCount, hAdvance taken rest hBytes, hLeft, hBytes, List.append_assoc]
  · rw [hSame]
    exact resumes_nothing hAnswer

/-- Whoever sends a frame goes on with what was not accepted yet. -/
theorem resume_accepted {sending : FrameSending} {taken : Bytes}
    (hTaken : taken ≠ []) :
    sending.resume (.accepted taken.length) = .going (sending.advance taken.length) := by
  cases taken with
  | nil => exact absurd rfl hTaken
  | cons byte bytes => rfl

/-- The header goes first, then the payload, and then there is nothing left to write. -/
theorem next_cases (sending : FrameSending) :
    sending.left = [] ∧ sending.next = .flush ∨
      ∃ bytes tail, bytes ≠ [] ∧ sending.next = .write bytes ∧ sending.left = bytes ++ tail ∧
        ∀ taken rest, bytes = taken ++ rest →
          (sending.advance taken.length).left = rest ++ tail := by
  by_cases hHeader : sending.header = []
  · by_cases hPayload : sending.payload = []
    · exact .inl ⟨by simp [left, hHeader, hPayload], by simp [next, hHeader, hPayload]⟩
    · refine .inr ⟨sending.payload, [], hPayload, by simp [next, hHeader, hPayload],
        by simp [left, hHeader], fun taken rest hBytes => ?_⟩
      rw [advance, if_neg (not_not_intro hHeader), left, hBytes, List.drop_left, hHeader]
      simp
  · refine .inr ⟨sending.header, sending.payload, hHeader, by simp [next, hHeader], rfl,
      fun taken rest hBytes => ?_⟩
    rw [advance, if_pos hHeader, left, hBytes, List.drop_left]

theorem resumes_call (sending : FrameSending) (socket : Socket) :
    Resumes sending socket.accepted (socket.call sending.next).2.accepted
      (sending.resume (socket.call sending.next).1) := by
  rcases sending.next_cases with ⟨hLeft, hNext⟩ | ⟨bytes, tail, -, hNext, hLeft, hAdvance⟩
  · obtain ⟨hSame, hAnswer⟩ := socket.flush_cases
    rw [hNext]
    show Resumes sending _ socket.flush.2.accepted (sending.resume socket.flush.1)
    rw [hSame]
    rcases hAnswer with hDone | hAnswer
    · rw [hDone]
      exact ⟨[], (List.append_nil _).symm, rfl, hLeft⟩
    · exact resumes_nothing hAnswer
  · exact resumes_write bytes tail socket hNext hLeft hAdvance

end FrameSending

end ConfigExchange
