import ConfigExchange.Proofs.Frame
import ConfigExchange.Proofs.Frame.Stream

/-! Frames that are sent one after the other are read back. The socket takes them in portions of its
own choice, and the feed brings them in others. -/
namespace ConfigExchange

namespace Socket

/-- Each call takes a part of what is left, so there are no more of them than bytes, and a flush. -/
theorem Accepting.finishFrame {socket : Socket} (hAccepting : socket.Accepting) {calls : Nat}
    {sending : FrameSending} (hCalls : sending.left.length < calls) :
    ∃ last, socket.finishFrame calls sending = (some (.ok ()), last) ∧ last.Accepting ∧
      last.accepted = socket.accepted ++ sending.left := by
  induction calls generalizing socket sending with
  | zero => exact absurd hCalls (Nat.not_lt_zero _)
  | succ calls ih =>
      rcases sending.next_cases with ⟨hLeft, hNext⟩ | ⟨bytes, tail, hBytes, hNext, hLeft, hAdvance⟩
      · obtain ⟨last, hFlush, hLast, hAccepted⟩ := hAccepting.flush
        refine ⟨last, ?_, hLast, by rw [hAccepted, hLeft, List.append_nil]⟩
        simp only [Socket.finishFrame, hNext, call, hFlush, FrameSending.resume]
      · obtain ⟨taken, later, hWrite, ⟨left, rfl⟩, hTaken, hLater, hAccepted⟩ :=
          hAccepting.write hBytes
        have hRest := hAdvance taken left rfl
        have hShorter : (sending.advance taken.length).left.length < calls := by
          have hSome := List.length_pos_iff.2 hTaken
          rw [hLeft] at hCalls
          rw [hRest]
          simp only [List.length_append] at hCalls ⊢
          omega
        obtain ⟨last, hFinish, hLast, hAll⟩ := ih hLater hShorter
        refine ⟨last, ?_, hLast, by rw [hAll, hAccepted, hRest, hLeft]; simp⟩
        simp only [Socket.finishFrame, hNext, call, hWrite, FrameSending.resume_accepted hTaken,
          hFinish]

theorem Accepting.sendFrame {socket : Socket} (hAccepting : socket.Accepting)
    (payload : Bytes) :
    ∃ last, socket.sendFrame payload = (some (.ok ()), last) ∧ last.Accepting ∧
      last.accepted = socket.accepted ++ frame payload := by
  refine hAccepting.finishFrame ?_
  simp only [FrameSending.weight, FrameSending.left, List.length_append]
  omega

theorem Accepting.sendFrames {socket : Socket} (hAccepting : socket.Accepting)
    (payloads : List Bytes) :
    ∃ last, socket.sendFrames payloads = (payloads.map fun _ => some (.ok ()), last) ∧
      last.accepted = socket.accepted ++ payloads.flatMap frame := by
  induction payloads generalizing socket with
  | nil => exact ⟨socket, rfl, (List.append_nil _).symm⟩
  | cons payload rest ih =>
      obtain ⟨next, hFirst, hNext, hAccepted⟩ := hAccepting.sendFrame payload
      obtain ⟨last, hRest, hAll⟩ := ih hNext
      refine ⟨last, ?_, by rw [hAll, hAccepted, List.append_assoc, List.flatMap_cons]⟩
      simp only [Socket.sendFrames, hFirst, hRest, List.map_cons]

end Socket

namespace Feed

/-- Each frame is read by one call, and the next call reads what follows them. -/
theorem readFrames_of_flatten {limit : Nat} {chunks payloads : List Bytes} {rest left : Bytes}
    {answer : Except FrameError Bytes} (hPayloads : ∀ payload ∈ payloads, Admitted limit payload)
    (hChunks : chunks.flatten = payloads.flatMap frame ++ rest)
    (hRest : ReadsFrame limit rest answer left) :
    readFrames limit (payloads.length + 1) ⟨chunks, .ended⟩ = payloads.map .ok ++ [answer] := by
  induction payloads generalizing chunks with
  | nil =>
      obtain ⟨found, after, hFrame, hReads⟩ := readsFrame_readFrame limit chunks
      rw [hChunks] at hReads
      obtain ⟨rfl, -⟩ := hReads.unique hRest
      simp only [List.length_nil, readFrames, hFrame, List.map_nil, List.nil_append]
  | cons payload others ih =>
      obtain ⟨hPayload, hOthers⟩ := List.forall_mem_cons.1 hPayloads
      obtain ⟨found, after, hFrame, hReads⟩ := readsFrame_readFrame limit chunks
      rw [hChunks, List.flatMap_cons, List.append_assoc] at hReads
      obtain ⟨rfl, hAfter⟩ := hReads.unique (.frame hPayload)
      rw [List.length_cons, readFrames, hFrame]
      simp only [ih hOthers hAfter, List.map_cons, List.cons_append]

end Feed

namespace Socket

/-- On a socket that takes everything, all frames are sent, and from the bytes that were taken they
are read back in order, until the stream closes. -/
theorem frames_of_sendFrames {limit : Nat} (hLimit : limit < byteRange headerWidth)
    {payloads : List Bytes} (hPayloads : ∀ payload ∈ payloads, payload.length ≤ limit)
    {socket : Socket} (hAccepting : socket.Accepting) {chunks : List Bytes}
    (hChunks : (socket.sendFrames payloads).2.accepted = socket.accepted ++ chunks.flatten) :
    (socket.sendFrames payloads).1 = (payloads.map fun _ => some (.ok ())) ∧
      Feed.frames limit ⟨chunks, .ended⟩ = payloads.map .ok ∧
      Feed.readFrames limit (payloads.length + 1) ⟨chunks, .ended⟩ =
        payloads.map .ok ++ [.error .closed] := by
  obtain ⟨last, hSent, hAccepted⟩ := hAccepting.sendFrames payloads
  have hAdmitted : ∀ payload ∈ payloads, Admitted limit payload := by
    intro payload hPayload
    exact ⟨hPayloads payload hPayload, Nat.lt_of_le_of_lt (hPayloads payload hPayload) hLimit⟩
  have hStream : chunks.flatten = payloads.flatMap frame ++ [] := by
    rw [hSent, hAccepted] at hChunks
    rw [List.append_nil]
    exact (List.append_cancel_left hChunks).symm
  have hClosed : ReadsFrame limit [] (.error .closed) [] := .closed (by decide)
  refine ⟨by rw [hSent], ?_, Feed.readFrames_of_flatten hAdmitted hStream hClosed⟩
  rw [Feed.frames_of_flatten hAdmitted hStream (.closed hClosed), List.append_nil]

/-- Two frames, one of them empty, that are taken in portions and arrive in pieces that end
elsewhere. -/
theorem frames_of_sendFrames_in_portions :
    let socket : Socket := { script := { writes := [.accept 3, .accept 2, .accept 1] } }
    let chunks : List Bytes := [[0], [0, 0, 2, 5], [6, 0, 0, 0, 0]]
    socket.Accepting ∧
      (socket.sendFrames [[5, 6], []]).2.accepted = socket.accepted ++ chunks.flatten ∧
      (socket.sendFrames [[5, 6], []]).1 = [some (.ok ()), some (.ok ())] ∧
      Feed.frames 16 ⟨chunks, .ended⟩ = [.ok [5, 6], .ok []] ∧
      Feed.readFrames 16 3 ⟨chunks, .ended⟩ = [.ok [5, 6], .ok [], .error .closed] := by
  intro socket chunks
  have hAccepting : socket.Accepting := by
    refine ⟨?_, fun action hAction => absurd hAction List.not_mem_nil⟩
    simp only [socket, List.forall_mem_cons]
    exact ⟨.inr ⟨3, by decide, rfl⟩, .inr ⟨2, by decide, rfl⟩, .inr ⟨1, by decide, rfl⟩, by simp⟩
  have hChunks :
      (socket.sendFrames [[5, 6], []]).2.accepted = socket.accepted ++ chunks.flatten := by
    decide
  exact ⟨hAccepting, hChunks, frames_of_sendFrames (by decide) (by decide) hAccepting hChunks⟩

end Socket

end ConfigExchange
