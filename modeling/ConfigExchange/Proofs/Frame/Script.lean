import ConfigExchange.Proofs.Frame

/-! What the script of a socket makes of a frame, told without the calls that it takes. A stall only
keeps the caller waiting, so for what becomes of the frame it might as well not be there. -/
namespace ConfigExchange

namespace SocketScript

/-- What becomes of some bytes, written with as many calls as it takes: what the script does after
them, or why they were not all taken, and those that were. -/
def writeAll : List SocketAction → Bytes → Except IoError (List SocketAction) × Bytes
  | [], bytes => (.ok [], bytes)
  | .succeed :: rest, bytes => (.ok rest, bytes)
  | .accept limit :: rest, bytes =>
    if limit = 0 then (.error .wroteNothing, [])
    else if bytes.length ≤ limit then (.ok rest, bytes)
    else (writeAll rest (bytes.drop limit)).map id (bytes.take limit ++ ·)
  | .fail kind :: rest, bytes =>
    if kind = .interrupted then writeAll rest bytes else (.error (.injected kind), [])
  | .stall :: rest, bytes => writeAll rest bytes

/-- What comes of a flush. -/
def flushAll : List SocketAction → Except IoError Unit
  | [] | .succeed :: _ | .accept _ :: _ => .ok ()
  | .fail kind :: _ => .error (.injected kind)
  | .stall :: rest => flushAll rest

/-- What becomes of byte strings that are written one after the other and then flushed, and which
bytes are taken. For an empty one there is no call. -/
def outcome : SocketScript → List Bytes → Except IoError Unit × Bytes
  | script, [] => (flushAll script.flushes, [])
  | script, bytes :: others =>
    if bytes = [] then outcome script others
    else
      match writeAll script.writes bytes with
      | (.error error, taken) => (.error error, taken)
      | (.ok writes, taken) => (outcome { script with writes } others).map id (taken ++ ·)

/-- What becomes of a payload that is sent as a frame. -/
def send (script : SocketScript) (payload : Bytes) : Except IoError Unit × Bytes :=
  script.outcome [frameHeader payload.length, payload]

/-! ### What is taken -/

theorem taken_writeAll (actions : List SocketAction) (bytes : Bytes) :
    (writeAll actions bytes).2 <+: bytes ∧
      ∀ rest, (writeAll actions bytes).1 = .ok rest → (writeAll actions bytes).2 = bytes := by
  induction actions generalizing bytes with
  | nil => exact ⟨List.prefix_rfl, fun _ _ => rfl⟩
  | cons action actions ih =>
      cases action with
      | succeed => exact ⟨List.prefix_rfl, fun _ _ => rfl⟩
      | accept limit =>
          simp only [writeAll]
          split
          · exact ⟨List.nil_prefix, nofun⟩
          · split
            · exact ⟨List.prefix_rfl, fun _ _ => rfl⟩
            · obtain ⟨hPrefix, hAll⟩ := ih (bytes.drop limit)
              refine ⟨?_, fun rest hRest => ?_⟩
              · conv => rhs; rw [← List.take_append_drop limit bytes]
                exact (List.prefix_append_right_inj _).2 hPrefix
              · show bytes.take limit ++ _ = bytes
                rw [hAll rest hRest, List.take_append_drop]
      | fail kind =>
          simp only [writeAll]
          split
          · exact ih bytes
          · exact ⟨List.nil_prefix, nofun⟩
      | stall => exact ih bytes

/-- The bytes that are taken are the first ones, and all of them if nothing fails. -/
theorem taken_outcome (script : SocketScript) (pieces : List Bytes) :
    (script.outcome pieces).2 <+: pieces.flatten ∧
      ((script.outcome pieces).1 = .ok () → (script.outcome pieces).2 = pieces.flatten) := by
  induction pieces generalizing script with
  | nil => exact ⟨List.prefix_rfl, fun _ => rfl⟩
  | cons bytes others ih =>
      simp only [outcome]
      split
      · next hEmpty =>
        rw [hEmpty]
        exact ih script
      · have hTaken := taken_writeAll script.writes bytes
        split
        · next hWrite =>
          rw [hWrite] at hTaken
          exact ⟨hTaken.1.trans (List.prefix_append _ _), nofun⟩
        · next writes taken hWrite =>
          rw [hWrite] at hTaken
          obtain rfl : taken = bytes := hTaken.2 writes rfl
          obtain ⟨hPrefix, hAll⟩ := ih { script with writes }
          refine ⟨(List.prefix_append_right_inj _).2 hPrefix, fun hOk => ?_⟩
          show taken ++ _ = taken ++ _
          rw [hAll hOk]

theorem taken_send (script : SocketScript) (payload : Bytes) :
    (script.send payload).2 <+: frame payload ∧
      ((script.send payload).1 = .ok () → (script.send payload).2 = frame payload) := by
  have hTaken := script.taken_outcome [frameHeader payload.length, payload]
  simpa [send, frame] using hTaken

/-! ### One call -/

/-- What becomes of a frame depends on what the script makes of bytes and of a flush only. -/
theorem outcome_congr {script other : SocketScript}
    (hWrites : writeAll script.writes = writeAll other.writes)
    (hFlushes : flushAll script.flushes = flushAll other.flushes) (pieces : List Bytes) :
    script.outcome pieces = other.outcome pieces := by
  induction pieces generalizing script other with
  | nil => simp only [outcome, hFlushes]
  | cons bytes others ih =>
      simp only [outcome, hWrites]
      split
      · exact ih hWrites hFlushes
      · split
        · rfl
        · next writes taken hWrite =>
          rw [@ih { script with writes } { other with writes } rfl hFlushes]

theorem writeAll_tail {actions : List SocketAction} (hHead : actions.head? = some .stall) :
    writeAll actions.tail = writeAll actions := by
  cases actions with
  | nil => cases hHead
  | cons action rest =>
      cases hHead
      rfl

theorem flushAll_tail {actions : List SocketAction} (hHead : actions.head? = some .stall) :
    flushAll actions.tail = flushAll actions := by
  cases actions with
  | nil => cases hHead
  | cons action rest =>
      cases hHead
      rfl

/-- A call that was stalled comes to the same when it goes on. -/
theorem outcome_unstall (socket : Socket) (pieces : List Bytes) :
    socket.unstall.script.outcome pieces = socket.script.outcome pieces := by
  refine outcome_congr ?_ ?_ pieces
  · unfold Socket.unstall
    simp only
    split
    · next hHead => exact writeAll_tail hHead
    · split
      · rfl
      · split <;> rfl
  · unfold Socket.unstall
    simp only
    split
    · rfl
    · split
      · next hHead => exact flushAll_tail hHead
      · split <;> rfl

/-- What a write makes of the first of some byte strings: it takes some bytes from the front, or has
to be tried again, or fails. -/
theorem outcome_write {socket later : Socket} {bytes : Bytes} {answer : CallAnswer}
    (hBytes : bytes ≠ []) (hCall : socket.write bytes = (answer, later))
    (hAnswer : answer ≠ .pending) (others : List Bytes) :
    (∃ taken rest, bytes = taken ++ rest ∧ taken ≠ [] ∧ answer = .accepted taken.length ∧
        later.accepted = socket.accepted ++ taken ∧
        later.script.writes.length ≤ socket.script.writes.length ∧
        socket.script.outcome (bytes :: others) =
          (later.script.outcome (rest :: others)).map id (taken ++ ·)) ∨
      later.accepted = socket.accepted ∧
        ((answer = .accepted 0 ∧
            socket.script.outcome (bytes :: others) = (.error .wroteNothing, [])) ∨
          (answer = .failed (.injected .interrupted) ∧
            later.script.writes.length < socket.script.writes.length ∧
            socket.script.outcome (bytes :: others) = later.script.outcome (bytes :: others)) ∨
          ∃ kind, kind ≠ .interrupted ∧ answer = .failed (.injected kind) ∧
            socket.script.outcome (bytes :: others) = (.error (.injected kind), [])) := by
  unfold Socket.write at hCall
  rcases hWrites : socket.script.writes with _ | ⟨action, writes⟩
  · simp only [hWrites, Socket.nextAction, Socket.take, List.take_length] at hCall
    cases hCall
    refine .inl ⟨bytes, [], by simp, hBytes, rfl, rfl, Nat.le_refl _, ?_⟩
    simp only [outcome, hBytes, if_false, if_true, hWrites, writeAll]
  · simp only [hWrites, Socket.nextAction] at hCall
    cases action with
    | succeed =>
        simp only [Socket.take, List.take_length] at hCall
        cases hCall
        refine .inl ⟨bytes, [], by simp, hBytes, rfl, rfl, Nat.le_succ _, ?_⟩
        simp only [outcome, hBytes, if_false, if_true, hWrites, writeAll]
    | accept limit =>
        simp only [Socket.take] at hCall
        cases hCall
        by_cases hLimit : limit = 0
        · refine .inr ⟨by simp [hLimit], .inl ⟨by simp [hLimit], ?_⟩⟩
          simp only [outcome, hBytes, if_false, hWrites, writeAll, hLimit, if_true]
        · refine .inl ⟨bytes.take limit, bytes.drop limit, (List.take_append_drop _ _).symm, ?_,
            rfl, rfl, Nat.le_succ _, ?_⟩
          · simp [hBytes, hLimit]
          · by_cases hLength : bytes.length ≤ limit
            · simp only [outcome, hBytes, if_false, hWrites, writeAll, hLimit, hLength, if_true,
                List.take_of_length_le hLength, List.drop_of_length_le hLength]
            · have hRest : bytes.drop limit ≠ [] := by simpa using hLength
              simp only [outcome, hBytes, if_false, hWrites, writeAll, hLimit, hLength, hRest]
              rcases writeAll writes (bytes.drop limit) with ⟨_ | left, taken⟩
              · rfl
              · simp [Prod.map]
    | fail kind =>
        cases hCall
        refine .inr ⟨rfl, .inr ?_⟩
        by_cases hKind : kind = .interrupted
        · subst hKind
          refine .inl ⟨rfl, Nat.lt_succ_self _, ?_⟩
          simp only [outcome, hBytes, if_false, hWrites, writeAll, if_true]
        · refine .inr ⟨kind, hKind, rfl, ?_⟩
          simp only [outcome, hBytes, if_false, hWrites, writeAll, hKind]
    | stall =>
        cases hCall
        exact absurd rfl hAnswer

theorem outcome_flush {socket later : Socket} {answer : CallAnswer}
    (hCall : socket.flush = (answer, later)) (hAnswer : answer ≠ .pending) :
    later.accepted = socket.accepted ∧
      ((answer = .done ∧ socket.script.outcome [] = (.ok (), [])) ∨
        ∃ error, answer = .failed error ∧ socket.script.outcome [] = (.error error, [])) := by
  unfold Socket.flush at hCall
  rcases hFlushes : socket.script.flushes with _ | ⟨action, flushes⟩
  · simp only [hFlushes, Socket.nextAction] at hCall
    cases hCall
    exact ⟨rfl, .inl ⟨rfl, by simp only [outcome, hFlushes, flushAll]⟩⟩
  · simp only [hFlushes, Socket.nextAction] at hCall
    cases action with
    | succeed | accept =>
        cases hCall
        exact ⟨rfl, .inl ⟨rfl, by simp only [outcome, hFlushes, flushAll]⟩⟩
    | fail kind =>
        cases hCall
        exact ⟨rfl, .inr ⟨_, rfl, by simp only [outcome, hFlushes, flushAll]⟩⟩
    | stall =>
        cases hCall
        exact absurd rfl hAnswer

end SocketScript

namespace FrameSending

/-- What is left to write of a frame, in the pieces in which it is written. -/
def pieces (sending : FrameSending) : List Bytes := [sending.header, sending.payload]

/-- What the next call is, seen from what the script makes of all that is left. -/
theorem pieces_cases (sending : FrameSending) :
    (sending.next = .flush ∧ sending.isWriting = false ∧
        ∀ script : SocketScript, script.outcome sending.pieces = script.outcome []) ∨
      ∃ bytes others, bytes ≠ [] ∧ sending.next = .write bytes ∧ sending.isWriting = true ∧
        (∀ script : SocketScript,
          script.outcome sending.pieces = script.outcome (bytes :: others)) ∧
        ∀ taken rest, bytes = taken ++ rest →
          (sending.advance taken.length).left.length + taken.length = sending.left.length ∧
          ∀ script : SocketScript, script.outcome (sending.advance taken.length).pieces =
            script.outcome (rest :: others) := by
  obtain ⟨header, payload⟩ := sending
  by_cases hHeader : header = []
  · subst hHeader
    by_cases hPayload : payload = []
    · subst hPayload
      exact .inl ⟨by simp [next], by simp [isWriting], fun script => by
        simp [pieces, SocketScript.outcome]⟩
    · refine .inr ⟨payload, [], hPayload, by simp [next, hPayload], by simp [isWriting, hPayload],
        fun script => by simp [pieces, SocketScript.outcome], fun taken rest hTaken => ?_⟩
      subst hTaken
      exact ⟨by simp [advance, left, Nat.add_comm], fun script => by
        simp [advance, pieces, SocketScript.outcome]⟩
  · refine .inr ⟨header, [payload], hHeader, by simp [next, hHeader], by simp [isWriting, hHeader],
      fun script => rfl, fun taken rest hTaken => ?_⟩
    subst hTaken
    refine ⟨?_, fun script => by simp [advance, hHeader, pieces]⟩
    simp only [advance, hHeader, ne_eq, not_false_eq_true, if_true, left, List.drop_left,
      List.length_append]
    omega

/-- How a frame goes on after a call: what becomes of it is what the script makes of the rest, and
fewer calls are left. -/
def Follows (sending : FrameSending) (socket later : Socket) : SendProgress → Prop
  | .going next => ∃ taken, later.accepted = socket.accepted ++ taken ∧
      socket.script.outcome sending.pieces =
        (later.script.outcome next.pieces).map id (taken ++ ·) ∧
      next.weight later < sending.weight socket
  | .complete => later.accepted = socket.accepted ∧
      socket.script.outcome sending.pieces = (.ok (), [])
  | .failed error => later.accepted = socket.accepted ∧
      socket.script.outcome sending.pieces = (.error error, [])

theorem follows_call {sending : FrameSending} {socket later : Socket} {answer : CallAnswer}
    (hCall : socket.call sending.next = (answer, later)) (hAnswer : answer ≠ .pending) :
    sending.Follows socket later (sending.resume answer) := by
  have hWeight (sending : FrameSending) (socket : Socket) :
      sending.weight socket = sending.left.length + socket.script.writes.length + 1 := by
    simp [weight, left]
  rcases sending.pieces_cases with ⟨hNext, hWriting, hPieces⟩ |
    ⟨bytes, others, hBytes, hNext, hWriting, hPieces, hAdvance⟩
  · rw [hNext] at hCall
    rcases SocketScript.outcome_flush hCall hAnswer with
      ⟨hAccepted, ⟨rfl, hDone⟩ | ⟨error, rfl, hFailed⟩⟩
    · exact ⟨hAccepted, (hPieces _).trans hDone⟩
    · have hResume : sending.resume (.failed error) = .failed error := by
        simp [resume, hWriting]
      rw [hResume]
      exact ⟨hAccepted, (hPieces _).trans hFailed⟩
  · rw [hNext] at hCall
    rcases SocketScript.outcome_write hBytes hCall hAnswer others with
      ⟨taken, rest, hTaken, hSome, rfl, hAccepted, hWrites, hOutcome⟩ | ⟨hAccepted, hRest⟩
    · obtain ⟨hLength, hLater⟩ := hAdvance taken rest hTaken
      have hPos := List.length_pos_iff.2 hSome
      rw [resume_accepted hSome]
      refine ⟨taken, hAccepted, ?_, ?_⟩
      · rw [hPieces, hOutcome, hLater]
      · rw [hWeight, hWeight]
        omega
    · rcases hRest with ⟨rfl, hOutcome⟩ | ⟨rfl, hLess, hOutcome⟩ | ⟨kind, hKind, rfl, hOutcome⟩
      · exact ⟨hAccepted, (hPieces _).trans hOutcome⟩
      · have hResume : sending.resume (.failed (.injected .interrupted)) = .going sending := by
          simp [resume, hWriting, IoError.kind]
        rw [hResume]
        refine ⟨[], by rw [hAccepted, List.append_nil], ?_, ?_⟩
        · rw [hPieces, hOutcome, hPieces]
          rfl
        · rw [hWeight, hWeight]
          omega
      · have hResume : sending.resume (.failed (.injected kind)) = .failed (.injected kind) := by
          simp [resume, IoError.kind, hKind]
        rw [hResume]
        exact ⟨hAccepted, (hPieces _).trans hOutcome⟩

/-- A call keeps the caller waiting only when the socket stalls. -/
theorem stalls_of_pending {sending : FrameSending} {socket later : Socket}
    (hCall : socket.call sending.next = (.pending, later)) :
    socket.script.writes.head? = some .stall ∨ socket.script.flushes.head? = some .stall := by
  rcases sending.pieces_cases with ⟨hNext, -⟩ | ⟨bytes, others, -, hNext, -⟩
  · rw [hNext] at hCall
    refine .inr ?_
    simp only [Socket.call, Socket.flush] at hCall
    rcases hFlushes : socket.script.flushes with _ | ⟨action, rest⟩
    · simp [hFlushes, Socket.nextAction] at hCall
    · cases action <;> simp_all [Socket.nextAction]
  · rw [hNext] at hCall
    refine .inl ?_
    simp only [Socket.call, Socket.write] at hCall
    rcases hWrites : socket.script.writes with _ | ⟨action, rest⟩
    · simp [hWrites, Socket.nextAction, Socket.take] at hCall
    · cases action <;> simp_all [Socket.nextAction, Socket.take]

/-- A stalled call that may go on leaves no more calls than before. -/
theorem weight_unstall_le (sending : FrameSending) (socket : Socket) :
    sending.weight socket.unstall ≤ sending.weight socket := by
  have hWrites : socket.unstall.script.writes.length ≤ socket.script.writes.length := by
    unfold Socket.unstall
    simp only
    split
    · simp
    · split
      · exact Nat.le_refl _
      · split <;> exact Nat.le_refl _
  simp only [weight]
  omega

end FrameSending

end ConfigExchange
