import ConfigExchange.Proofs.Sending.Writer

/-! What a writer that is told to send its buffer gives to the stream: nothing if the buffer is too
large, and otherwise the front of its frame, which begins with the header. The header has four bytes
whatever the buffer holds, and a debug build makes none for what they cannot tell. -/
namespace ConfigExchange

/-! ### Headers -/

theorem length_frameHeader (length : Nat) : (frameHeader length).length = 4 :=
  length_bigEndian headerWidth length

/-- A header tells no more of a length than four bytes can hold. -/
theorem ofBigEndian_frameHeader (length : Nat) :
    ofBigEndian (frameHeader length) = length % 4294967296 := by
  have hRange : byteRange headerWidth = 4294967296 := by decide
  rw [ofBigEndian, frameHeader, foldl_bigEndian, Nat.zero_mul, Nat.zero_add, hRange]

theorem ofBigEndian_frameHeader_eq {length : Nat} :
    ofBigEndian (frameHeader length) = length ↔ length < 4294967296 := by
  rw [ofBigEndian_frameHeader]
  exact Nat.mod_eq_iff_lt (by decide)

/-! ### What calls give to a stream -/

/-- The bytes that a call gave to the stream. -/
def Call.taken (call : Call) : Bytes :=
  match call.call, call.answer with
  | .write bytes, .accepted count => bytes.take count
  | _, _ => []

/-- Of some calls, those that one session made. -/
def Call.madeBy (id : SessionId) (calls : List Call) : List Call :=
  calls.filter fun call => call.caller = id

namespace FrameSending

/-- What was left of a frame is what a call took of it, and what is left then. -/
theorem left_eq_taken (sending : FrameSending) (caller : SessionId) (count : Nat) :
    sending.left =
      (Call.mk caller sending.next (.accepted count)).taken ++ (sending.advance count).left := by
  by_cases hHeader : sending.header = []
  · by_cases hPayload : sending.payload = []
    · simp [next, Call.taken, advance, left, hHeader, hPayload]
    · simp [next, Call.taken, advance, left, hHeader, hPayload]
  · simp [next, Call.taken, advance, left, hHeader, ← List.append_assoc]

/-- Whoever goes on has given the front of what was left. Whoever fails has given nothing. -/
theorem resume_taken (sending : FrameSending) (caller : SessionId) (answer : CallAnswer) :
    match sending.resume answer with
    | .going later => sending.left = (Call.mk caller sending.next answer).taken ++ later.left
    | .complete => answer = .done
    | .failed _ => (Call.mk caller sending.next answer).taken = [] := by
  have hNothing : (∀ count, answer ≠ .accepted count) →
      (Call.mk caller sending.next answer).taken = [] := by
    intro hAnswer
    unfold Call.taken
    split
    · next count _ hAccepted => exact absurd hAccepted (hAnswer count)
    · rfl
  cases answer with
  | accepted count =>
      cases count with
      | zero =>
          show Call.taken _ = []
          unfold Call.taken
          split
          · next hAccepted =>
            cases hAccepted
            exact List.take_zero
          · rfl
      | succ count => exact sending.left_eq_taken caller (count + 1)
  | done => rfl
  | pending =>
      show sending.left = Call.taken _ ++ sending.left
      rw [hNothing nofun, List.nil_append]
  | failed error =>
      have hResume : sending.resume (.failed error) =
          if sending.isWriting ∧ error.kind = .interrupted then .going sending
          else .failed error := rfl
      rw [hResume, hNothing nofun]
      by_cases hAgain : sending.isWriting ∧ error.kind = .interrupted
      · rw [if_pos hAgain]
        rfl
      · rw [if_neg hAgain]

end FrameSending

/-- A write is never answered as a flush is. -/
theorem Outlet.call_write_ne_done (outlet : Outlet) (channels : Channels) (bytes : Bytes) :
    (outlet.call channels (.write bytes)).1 ≠ .done := by
  cases outlet with
  | socket socket =>
      show (socket.write bytes).1 ≠ .done
      rcases socket.write_cases bytes with ⟨_, _, -, hAnswer, -⟩ | ⟨-, ⟨_, hAnswer⟩ | hAnswer⟩
      · rw [hAnswer]; exact nofun
      · rw [hAnswer]; exact nofun
      · rw [hAnswer]; exact nofun
  | channel place side =>
      unfold call
      simp only
      cases channels[place]? with
      | none => simp
      | some channel =>
          show ((channel.outgoing side).write bytes).1 ≠ .done
          unfold Pipe.write
          split
          · simp
          · split <;> simp

/-- A frame is complete when nothing is left of it. -/
theorem FrameSending.left_of_done {sending : FrameSending} {outlet : Outlet} {channels : Channels}
    (hDone : (outlet.call channels sending.next).1 = .done) :
    sending.left = [] ∧ sending.next = .flush := by
  rcases sending.next_cases with hEnd | ⟨bytes, -, -, hNext, -⟩
  · exact hEnd
  · rw [hNext] at hDone
    exact absurd hDone (outlet.call_write_ne_done channels bytes)

/-- Who has come to an end can only be given up. -/
theorem WriterTurn.dropped_of_isOver {id : SessionId} {connection next : Connection}
    {stage last : WriterStage} (hTurn : WriterTurn id connection stage next last)
    (hOver : stage.isOver = true) : last = .dropped := by
  cases hTurn with
  | leaves _ hRefusal | quits _ hRefusal =>
      cases hRefusal with
      | drops => rfl
      | _ => cases hOver
  | _ => cases hOver

namespace Cluster

variable {cluster : Cluster} {index : Nat} {id : SessionId} {connection : Connection}
  {stage : WriterStage} {buffer : Buffer} {rest : FrameSending}

theorem madeBy_streamCalls_cons (event : Event) (events : List Event) :
    Call.madeBy id (cluster.streamCalls index (event :: events)) =
      Call.madeBy id (callsIn index cluster event) ++
        Call.madeBy id ((cluster.perform event).streamCalls index events) := List.filter_append _ _

/-- Only a writer that sends makes calls. -/
theorem madeBy_of_idle (hStage : cluster.stage? index id = some stage)
    (hIdle : ∀ buffer rest, stage ≠ .sending buffer rest) (event : Event) :
    Call.madeBy id (callsIn index cluster event) = [] := by
  rw [Call.madeBy, List.filter_eq_nil_iff]
  intro call hCall hCaller
  have hSame : call.caller = id := of_decide_eq_true hCaller
  subst hSame
  obtain ⟨-, -, -, -, -, ⟨buffer, rest, -, hSending, -⟩ | ⟨hCloser, -⟩⟩ := callsIn_cases hCall
  · cases hStage.symm.trans hSending
    exact hIdle buffer rest rfl
  · cases (closer?_of_stage? hStage).symm.trans hCloser

/-- A writer that is done makes no calls, and can only be given up. -/
theorem madeBy_of_isOver (hConnection : cluster.connections[index]? = some connection)
    (hStage : cluster.stage? index id = some stage) (hOver : stage.isOver = true)
    (events : List Event) : Call.madeBy id (cluster.streamCalls index events) = [] ∧
      ((cluster.run events).stage? index id = some stage ∨
        (cluster.run events).stage? index id = some .dropped) := by
  induction events generalizing cluster connection stage with
  | nil => exact ⟨rfl, .inl hStage⟩
  | cons event events ih =>
      have hNone := madeBy_of_idle hStage (by rintro _ _ rfl; cases hOver) event
      obtain ⟨next, hNext, hTurn⟩ := turn_perform hConnection event
      obtain ⟨last, hLast, rfl | ⟨-, hWriter⟩⟩ := hTurn.stage_after hStage
      · obtain ⟨hCalls, hEnd⟩ := ih hNext hLast hOver
        exact ⟨by rw [madeBy_streamCalls_cons, hNone, hCalls]; rfl, hEnd⟩
      · cases hWriter.dropped_of_isOver hOver
        obtain ⟨hCalls, hEnd⟩ := ih hNext hLast rfl
        exact ⟨by rw [madeBy_streamCalls_cons, hNone, hCalls]; rfl, .inr (or_self_iff.1 hEnd)⟩

/-- A writer that sends makes a call and takes up the answer, or makes none and stays as it is,
unless it is given up. -/
theorem sending_turn (hConnection : cluster.connections[index]? = some connection)
    (hStage : cluster.stage? index id = some (.sending buffer rest)) (event : Event) :
    (Call.madeBy id (callsIn index cluster event) = [] ∧
        ((cluster.perform event).stage? index id = some (.sending buffer rest) ∨
          (cluster.perform event).stage? index id = some .dropped)) ∨
      ∃ answer, Call.madeBy id (callsIn index cluster event) =
          [⟨id, rest.next, answer⟩] ∧
        answer = (connection.outlet.call cluster.channels rest.next).1 ∧
        (cluster.perform event).stage? index id =
          some (.ofProgress connection.remote buffer (rest.resume answer)) := by
  cases hMade : Call.madeBy id (callsIn index cluster event) with
  | nil =>
      refine .inl ⟨rfl, ?_⟩
      by_cases hSubject : event.subject? = some id
      · rcases sending_perform hConnection hStage event hSubject with
          hSame | rfl | ⟨call, hCall, hCaller, -⟩
        · exact .inl hSame
        · exact .inr (stage?_drop hStage)
        · have hMem : call ∈ Call.madeBy id (callsIn index cluster event) :=
            List.mem_filter.2 ⟨hCall, decide_eq_true hCaller⟩
          rw [hMade] at hMem
          cases hMem
      · obtain ⟨next, -, hTurn⟩ := turn_perform hConnection event
        obtain ⟨last, hLast, rfl | ⟨hOwn, -⟩⟩ := hTurn.stage_after hStage
        · exact .inl hLast
        · exact absurd hOwn hSubject
  | cons call others =>
      obtain ⟨hCall, hCaller⟩ := List.mem_filter.1 (hMade ▸ List.mem_cons_self)
      obtain ⟨found, hFound, rfl, hOnly, hAnswer, hSender⟩ := callsIn_cases hCall
      obtain ⟨caller, request, answer⟩ := call
      have hSame : caller = id := of_decide_eq_true hCaller
      subst hSame
      cases hConnection.symm.trans hFound
      rcases hSender with ⟨_, _, pool, hSending, rfl, hPool⟩ | ⟨hCloser, -⟩
      · cases hStage.symm.trans hSending
        refine .inr ⟨answer, ?_, hAnswer, ?_⟩
        · rw [← hMade, hOnly]
          simp [Call.madeBy]
        · rcases step_sending hConnection hStage hPool rfl with
            ⟨hPending, hStep⟩ | ⟨after, next, -, hStep, -, -, hLast⟩
          · have hWaits : answer = .pending := hAnswer.trans hPending
            rw [perform_step_of_none hStep, hWaits]
            exact hStage
          · have hTaken : answer = (connection.outlet.call cluster.channels rest.next).1 := hAnswer
            rw [perform_step_of_some hStep, hTaken]
            exact hLast
      · cases (closer?_of_stage? hStage).symm.trans hCloser

/-- What a writer gives to the stream is the front of what is left of its frame, and all of it if
the writer succeeds. -/
theorem taken_of_sending (hConnection : cluster.connections[index]? = some connection)
    (hStage : cluster.stage? index id = some (.sending buffer rest)) (events : List Event) :
    let taken := (Call.madeBy id (cluster.streamCalls index events)).flatMap Call.taken
    taken <+: rest.left ∧
      ((cluster.run events).stage? index id = some (.finished (.ok ())) → taken = rest.left) := by
  induction events generalizing cluster connection rest with
  | nil =>
      refine ⟨List.nil_prefix, fun hDone => ?_⟩
      cases hStage.symm.trans hDone
  | cons event events ih =>
      obtain ⟨next, hNext, -⟩ := turn_perform hConnection event
      -- A writer that is done goes on to give nothing.
      have hOver : ∀ {stage : WriterStage}, (cluster.perform event).stage? index id = some stage →
          stage.isOver = true →
            Call.madeBy id ((cluster.perform event).streamCalls index events) = [] ∧
            ((cluster.run (event :: events)).stage? index id = some stage ∨
              (cluster.run (event :: events)).stage? index id = some .dropped) :=
        fun hLast hOver => madeBy_of_isOver hNext hLast hOver events
      rw [madeBy_streamCalls_cons]
      rcases sending_turn hConnection hStage event with
        ⟨hNone, hSame | hDropped⟩ | ⟨answer, hMade, hAnswer, hLast⟩
      · rw [hNone]
        exact ih hNext hSame
      · obtain ⟨hCalls, hEnd⟩ := hOver hDropped rfl
        rw [hNone, hCalls]
        refine ⟨List.nil_prefix, fun hDone => ?_⟩
        cases hDone.symm.trans (or_self_iff.1 hEnd)
      · have hTaken := rest.resume_taken id answer
        rw [hMade, List.flatMap_append, List.flatMap_singleton]
        cases hResume : rest.resume answer with
        | going more =>
            rw [hResume] at hLast hTaken
            obtain ⟨hFront, hAll⟩ := ih hNext hLast
            rw [hTaken]
            exact ⟨(List.prefix_append_right_inj _).2 hFront, fun hDone => by rw [hAll hDone]⟩
        | complete =>
            rw [hResume] at hLast hTaken
            obtain ⟨hEmpty, hFlush⟩ := FrameSending.left_of_done (hAnswer.symm.trans hTaken)
            obtain ⟨hCalls, -⟩ := hOver hLast rfl
            rw [hCalls, hEmpty, hFlush]
            exact ⟨List.prefix_rfl, fun _ => rfl⟩
        | failed error =>
            rw [hResume] at hLast hTaken
            obtain ⟨hCalls, hEnd⟩ := hOver hLast rfl
            rw [hCalls, hTaken]
            refine ⟨List.nil_prefix, fun hDone => ?_⟩
            rcases hEnd with hEnd | hEnd
            · cases hDone.symm.trans hEnd
            · cases hDone.symm.trans hEnd

/-- An assertion fails in a debug build that is to make a header for more than it can tell. Apart
from that builds do not differ. -/
theorem flushIn_eq (build : Build) (hConnection : cluster.connections[index]? = some connection)
    (hStage : cluster.stage? index id = some (.opened buffer)) :
    cluster.flushIn build id =
      if build = .debug ∧ buffer.bytes.length ≤ connection.maxMessageSize ∧
          4294967296 ≤ buffer.bytes.length then (.error .lengthFitsHeader, cluster.drop id)
      else (.ok (), cluster.flush id) := by
  have hSession := stage?_eq_some.1 hStage
  rw [flush_eq]
  simp only [flushIn, hSession, hConnection]
  by_cases hLarge : connection.maxMessageSize < buffer.bytes.length
  · rw [if_pos hLarge, if_pos hLarge, if_neg fun hFails => absurd hLarge (Nat.not_lt.2 hFails.2.1)]
  · rw [if_neg hLarge, if_neg hLarge]
    cases build with
    | release => rfl
    | debug =>
        rw [Build.frameHeader, maxHeaderLength]
        by_cases hFits : buffer.bytes.length ≤ 4294967295
        · rw [if_pos hFits, if_neg fun hFails => by omega]
          rfl
        · rw [if_neg hFits, if_pos ⟨rfl, Nat.not_lt.1 hLarge, by omega⟩]

/-- Who is told to send makes no call on a stream yet. -/
theorem streams_flushIn (build : Build)
    (hConnection : cluster.connections[index]? = some connection)
    (hStage : cluster.stage? index id = some (.opened buffer)) :
    (∃ next, (cluster.flushIn build id).2.connections[index]? = some next ∧
        next.outlet = connection.outlet) ∧
      (cluster.flushIn build id).2.channels = cluster.channels := by
  have hSession := stage?_eq_some.1 hStage
  have hOutlet (event : Event) : ∃ next, (cluster.perform event).connections[index]? = some next ∧
      (event.subject? = some id → next.outlet = connection.outlet) := by
    obtain ⟨next, hNext, hTurn⟩ := turn_perform hConnection event
    exact ⟨next, hNext, fun hSubject => (hSubject ▸ hTurn).outlet_of_idle hStage (by simp)⟩
  rw [flushIn_eq build hConnection hStage]
  split
  · refine ⟨(hOutlet (.drop id)).imp fun _ hNext => ⟨hNext.1, hNext.2 rfl⟩, ?_⟩
    simp [drop, hSession, conclude, setSession]
  · refine ⟨(hOutlet (.flush id)).imp fun _ hNext => ⟨hNext.1, hNext.2 rfl⟩, ?_⟩
    simp only [flush_eq, hSession, hConnection]
    split <;> simp [conclude, setSession]

/-- A writer that is dropped makes no call. -/
theorem madeBy_of_drop (hConnection : cluster.connections[index]? = some connection)
    (hStage : cluster.stage? index id = some stage) (later : List Event) :
    Call.madeBy id ((cluster.drop id).streamCalls index later) = [] := by
  obtain ⟨next, hNext, -⟩ := turn_perform hConnection (.drop id)
  have hDropped : (cluster.perform (.drop id)).stage? index id = some .dropped := stage?_drop hStage
  exact (madeBy_of_isOver hNext hDropped rfl later).1

/-- What a connection does not admit is refused without a call. -/
theorem madeBy_of_refused (hConnection : cluster.connections[index]? = some connection)
    (hStage : cluster.stage? index id = some (.opened buffer))
    (hLarge : connection.maxMessageSize < buffer.bytes.length) (later : List Event) :
    Call.madeBy id ((cluster.flush id).streamCalls index later) = [] ∧
      (cluster.flush id).stage? index id = some (.finished (.error
        (.messageTooLarge buffer.bytes.length connection.maxMessageSize))) := by
  have hRefused := stage?_flush hConnection hStage
  rw [if_pos hLarge] at hRefused
  obtain ⟨next, hNext, -⟩ := turn_perform hConnection (.flush id)
  exact ⟨(madeBy_of_isOver hNext hRefused rfl later).1, hRefused⟩

/-- Of what it admits the writer gives the front of the frame, and all of it if it succeeds. -/
theorem taken_of_admitted (hConnection : cluster.connections[index]? = some connection)
    (hStage : cluster.stage? index id = some (.opened buffer))
    (hAdmitted : buffer.bytes.length ≤ connection.maxMessageSize) (later : List Event) :
    let calls := Call.madeBy id ((cluster.flush id).streamCalls index later)
    let framed := frameHeader buffer.bytes.length ++ buffer.bytes
    (cluster.flush id).stage? index id = some (.sending buffer (.start buffer.bytes)) ∧
      calls.flatMap Call.taken <+: framed ∧
      (((cluster.flush id).run later).stage? index id = some (.finished (.ok ())) →
        calls.flatMap Call.taken = framed) := by
  have hSending := stage?_flush hConnection hStage
  rw [if_neg (Nat.not_lt.2 hAdmitted)] at hSending
  obtain ⟨next, hNext, -⟩ := turn_perform hConnection (.flush id)
  exact ⟨hSending, taken_of_sending hNext hSending later⟩

/-- A writer that is told to send a buffer its connection does not admit is refused, and never makes
a call. Of what is admitted, a debug build asserts that a header can tell its length. Where that
fails, the writer is dropped without a call; otherwise it gives the stream the front of its frame,
and all of it if it succeeds. The header tells the length of the buffer exactly if four bytes can
hold it, which nothing but the assertion makes sure of where the connection admits more. -/
theorem flush_announces (build : Build)
    (hConnection : cluster.connections[index]? = some connection)
    (hStage : cluster.stage? index id = some (.opened buffer)) (later : List Event) :
    let length := buffer.bytes.length
    let limit := connection.maxMessageSize
    let flushed := cluster.flushIn build id
    let calls := Call.madeBy id (flushed.2.streamCalls index later)
    let taken := calls.flatMap Call.taken
    ((∃ next, flushed.2.connections[index]? = some next ∧ next.outlet = connection.outlet) ∧
      flushed.2.channels = cluster.channels) ∧
    (flushed.1 = .error .lengthFitsHeader ↔
      build = .debug ∧ length ≤ limit ∧ 4294967296 ≤ length) ∧
    (flushed.1 = .error .lengthFitsHeader → flushed.2 = cluster.drop id ∧ calls = []) ∧
    (limit < length → flushed.1 = .ok () ∧ calls = [] ∧ flushed.2.stage? index id =
      some (.finished (.error (.messageTooLarge length limit)))) ∧
    (flushed.1 = .ok () → length ≤ limit →
      flushed.2.stage? index id = some (.sending buffer (.start buffer.bytes)) ∧
      taken <+: frameHeader length ++ buffer.bytes ∧
      ((flushed.2.run later).stage? index id = some (.finished (.ok ())) →
        taken = frameHeader length ++ buffer.bytes)) ∧
    (frameHeader length).length = 4 ∧
    (ofBigEndian (frameHeader length) = length ↔ length < 4294967296) ∧
    (limit < 4294967296 → flushed.1 = .ok () ∧
      (limit < length ∨ ofBigEndian (frameHeader length) = length)) := by
  intro length limit flushed calls taken
  have hFlushed : flushed = if build = .debug ∧ length ≤ limit ∧ 4294967296 ≤ length then
      (.error .lengthFitsHeader, cluster.drop id) else (.ok (), cluster.flush id) :=
    flushIn_eq build hConnection hStage
  refine ⟨streams_flushIn build hConnection hStage, ?_⟩
  by_cases hFails : build = .debug ∧ length ≤ limit ∧ 4294967296 ≤ length
  · -- The assertion fails, so the writer is dropped.
    rw [if_pos hFails] at hFlushed
    have hError : flushed.1 = .error .lengthFitsHeader := congrArg Prod.fst hFlushed
    have hDrop : flushed.2 = cluster.drop id := congrArg Prod.snd hFlushed
    have hCalls : calls = [] := by
      show Call.madeBy id (flushed.2.streamCalls index later) = []
      rw [hDrop]
      exact madeBy_of_drop hConnection hStage later
    have hNotOk : flushed.1 ≠ .ok () := by
      rw [hError]
      rintro ⟨⟩
    exact ⟨⟨fun _ => hFails, fun _ => hError⟩, fun _ => ⟨hDrop, hCalls⟩,
      fun hLarge => absurd hLarge (Nat.not_lt.2 hFails.2.1), fun hOk => absurd hOk hNotOk,
      length_frameHeader length, ofBigEndian_frameHeader_eq, fun hLimit => by omega⟩
  · -- Nothing is asserted that fails, so the limit alone decides.
    rw [if_neg hFails] at hFlushed
    have hOk : flushed.1 = .ok () := congrArg Prod.fst hFlushed
    have hAfter : flushed.2 = cluster.flush id := by rw [hFlushed]
    have hCalls : calls = Call.madeBy id ((cluster.flush id).streamCalls index later) := by
      rw [← hAfter]
    have hNone : flushed.1 ≠ .error .lengthFitsHeader := by
      rw [hOk]
      rintro ⟨⟩
    refine ⟨⟨fun hError => absurd hError hNone, fun hFail => absurd hFail hFails⟩,
      fun hError => absurd hError hNone, fun hLarge => ?_, fun _ hAdmitted => ?_,
      length_frameHeader length, ofBigEndian_frameHeader_eq, fun hLimit => ⟨hOk, ?_⟩⟩
    · rw [hCalls, hAfter]
      exact ⟨hOk, madeBy_of_refused hConnection hStage hLarge later⟩
    · show _ ∧ calls.flatMap Call.taken <+: _ ∧ (_ → calls.flatMap Call.taken = _)
      rw [hCalls, hAfter]
      exact taken_of_admitted hConnection hStage hAdmitted later
    · rw [ofBigEndian_frameHeader_eq]
      omega

/-- What the writer of a lone connection is told before it sends this payload. -/
def filling (payload : Bytes) : List Event :=
  [.openWriter 0, .step 0, .step 0, .step 0, .append 0 [payload]]

/-- A payload of one byte, in a debug build. -/
theorem flush_announces_one_byte :
    let cluster := (Watch.lone {}).run (filling [7])
    let flushed := cluster.flushIn .debug 0
    let later := [.step 0, .step 0, .step 0]
    (∃ connection, cluster.connections[0]? = some connection ∧ connection.maxMessageSize = 1024) ∧
      (∃ capacity, cluster.stage? 0 0 = some (.opened ⟨[7], capacity⟩)) ∧
      flushed.1 = .ok () ∧
      (Call.madeBy 0 (flushed.2.streamCalls 0 later)).flatMap Call.taken = [0, 0, 0, 1, 7] := by
  intro cluster flushed later
  have hConnection : ∃ connection, cluster.connections[0]? = some connection ∧
      connection.maxMessageSize = 1024 := ⟨_, rfl, rfl⟩
  have hStage : ∃ capacity, cluster.stage? 0 0 = some (.opened ⟨[7], capacity⟩) := ⟨_, rfl⟩
  have hDone : (flushed.2.run later).stage? 0 0 = some (.finished (.ok ())) := rfl
  obtain ⟨connection, hHere, hLimit⟩ := hConnection
  obtain ⟨capacity, hOpened⟩ := hStage
  obtain ⟨-, -, -, -, hSends, -, -, hSmall⟩ := flush_announces .debug hHere hOpened later
  have hAdmitted : 1 ≤ connection.maxMessageSize := by omega
  have hOk : flushed.1 = .ok () := (hSmall (by omega)).1
  have hFrame : frameHeader 1 ++ [7] = [0, 0, 0, 1, 7] := by decide
  exact ⟨⟨connection, hHere, hLimit⟩, ⟨capacity, hOpened⟩, hOk,
    ((hSends hOk hAdmitted).2.2 hDone).trans hFrame⟩

/-- A cluster with one connection, which admits one byte more than a header can tell. -/
def wide : Cluster :=
  let site : Site :=
    .ofSettings ⟨.v4 (.replicate 4 127) 40404, 1⟩ { maxMessageSize := 4294967296 }
  (({ sites := [site] } : Cluster).connect 0 ⟨.v4 (.replicate 4 127) 40405, 2⟩ .v2 (.socket {})).2

theorem flush_eq_of_le (hConnection : cluster.connections[index]? = some connection)
    (hStage : cluster.stage? index id = some (.opened buffer))
    (hAdmitted : buffer.bytes.length ≤ connection.maxMessageSize) :
    cluster.flush id =
      cluster.setSession id (.writer index (.sending buffer (.start buffer.bytes))) := by
  simp [flush_eq, stage?_eq_some.1 hStage, hConnection, Nat.not_lt.2 hAdmitted]

/-- Of a payload one byte longer than a header can tell, the assertion fails where it is checked;
else the payload is sent behind the header of an empty one. -/
theorem flushIn_wide {payload : Bytes} (hLength : payload.length = 4294967296) :
    let cluster := wide.run (filling payload)
    let checked := cluster.flushIn .debug 0
    let unchecked := cluster.flushIn .release 0
    (∃ capacity, cluster.stage? 0 0 = some (.opened ⟨payload, capacity⟩)) ∧
      checked.1 = .error .lengthFitsHeader ∧
      (∀ error, checked.2.stage? 0 0 ≠ some (.finished (.error error))) ∧
      unchecked.1 = .ok () ∧
      (∀ error, unchecked.2.stage? 0 0 ≠ some (.finished (.error error))) ∧
      (unchecked.2.perform (.step 0)).accepted 0 = [0, 0, 0, 0] ∧
      ofBigEndian [0, 0, 0, 0] ≠ payload.length := by
  intro cluster checked unchecked
  have hConnection : ∃ connection, cluster.connections[0]? = some connection ∧
      connection.maxMessageSize = 4294967296 := ⟨_, rfl, rfl⟩
  have hStage : ∃ capacity,
      cluster.stage? 0 0 = some (.opened ⟨[] ++ [payload].flatten, capacity⟩) := ⟨_, rfl⟩
  obtain ⟨connection, hHere, hLimit⟩ := hConnection
  obtain ⟨capacity, hOpened⟩ := hStage
  have hBytes : ([] ++ [payload].flatten : Bytes) = payload := by simp
  rw [hBytes] at hOpened
  have hAdmitted : payload.length ≤ connection.maxMessageSize :=
    Nat.le_of_eq (hLength.trans hLimit.symm)
  have hChecked : checked = (.error .lengthFitsHeader, cluster.drop 0) :=
    (flushIn_eq .debug hHere hOpened).trans
      (if_pos ⟨rfl, hAdmitted, Nat.le_of_eq hLength.symm⟩)
  have hUnchecked : unchecked = (.ok (), cluster.setSession 0
      (.writer 0 (.sending ⟨payload, capacity⟩ (.start payload)))) := by
    rw [← flush_eq_of_le hHere hOpened hAdmitted]
    exact (flushIn_eq .release hHere hOpened).trans (if_neg (by simp))
  -- The length stays a variable here, so that nothing computes with the payload itself.
  have hStep : ((cluster.setSession 0 (.writer 0
      (.sending ⟨payload, capacity⟩ (.start payload)))).perform (.step 0)).accepted 0 =
        frameHeader payload.length := rfl
  rw [hChecked, hUnchecked]
  refine ⟨⟨capacity, hOpened⟩, rfl, fun error hRefused => ?_, rfl, fun error hRefused => ?_, ?_, ?_⟩
  · cases (stage?_drop hOpened).symm.trans hRefused
  · have hSending : (cluster.setSession 0 (.writer 0
        (.sending ⟨payload, capacity⟩ (.start payload)))).stage? 0 0 =
          some (.sending ⟨payload, capacity⟩ (.start payload)) := rfl
    cases hSending.symm.trans hRefused
  · rw [hStep, hLength]
    decide
  · rw [hLength]
    decide

/-- Such a payload is not refused: a debug build fails its assertion, and a release build sends a
header that is wrong. -/
theorem flush_announces_too_little :
    let payload : Bytes := List.replicate 4294967296 0
    let cluster := wide.run (filling payload)
    let checked := cluster.flushIn .debug 0
    let unchecked := cluster.flushIn .release 0
    (∃ capacity, cluster.stage? 0 0 = some (.opened ⟨payload, capacity⟩)) ∧
      checked.1 = .error .lengthFitsHeader ∧
      (∀ error, checked.2.stage? 0 0 ≠ some (.finished (.error error))) ∧
      unchecked.1 = .ok () ∧
      (∀ error, unchecked.2.stage? 0 0 ≠ some (.finished (.error error))) ∧
      (unchecked.2.perform (.step 0)).accepted 0 = [0, 0, 0, 0] ∧
      ofBigEndian [0, 0, 0, 0] ≠ payload.length :=
  flushIn_wide List.length_replicate

end Cluster

end ConfigExchange
