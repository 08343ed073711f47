import ConfigExchange.Proofs.Frame.Stream

/-! Streams cut into pieces. However a stream is divided, the same frames are read from it and the
same error after them, which the bytes behind the frames decide. -/
namespace ConfigExchange

/-- The length that a stream announces, if it begins with a whole header. -/
def announced? (bytes : Bytes) : Option Nat :=
  if headerWidth ≤ bytes.length then some (ofBigEndian (bytes.take headerWidth)) else none

theorem announced?_of_short {bytes : Bytes} (hShort : bytes.length < headerWidth) :
    announced? bytes = none :=
  if_neg (Nat.not_le.2 hShort)

theorem announced?_header {length : Nat} (hHeader : length < byteRange headerWidth)
    (after : Bytes) :
    announced? (frameHeader length ++ after) = some length := by
  have hWidth : (frameHeader length).length = headerWidth := length_bigEndian ..
  rw [announced?, if_pos (headerWidth_le_length_append length after), ← hWidth, List.take_left,
    frameHeader, ofBigEndian_bigEndian hHeader]

/-- Why no frame is read is told by the announced length, and how much of it there is. There is no
other reason. -/
theorem ReadsFrame.failure_iff {limit : Nat} {bytes left : Bytes} {error : FrameError}
    (hRead : ReadsFrame limit bytes (.error error) left) :
    (error = .closed ∨ (∃ length, error = .tooLarge length limit) ∨ error = .io .earlyEof) ∧
      (∀ length, error = .tooLarge length limit ↔ announced? bytes = some length ∧ limit < length) ∧
      (error = .io .earlyEof ↔ ∃ length, announced? bytes = some length ∧ length ≤ limit ∧
        bytes.length < headerWidth + length) ∧
      (error = .closed ↔ announced? bytes = none) := by
  cases hRead with
  | closed hShort => simp [announced?_of_short hShort]
  | @tooLarge length _ hHeader hLimit =>
      refine ⟨.inr (.inl ⟨length, rfl⟩), fun other => ⟨fun hSame => ?_, fun ⟨hSame, _⟩ => ?_⟩,
        ⟨nofun, fun ⟨other, hSame, hWithin, _⟩ => ?_⟩, ⟨nofun, fun hNone => ?_⟩⟩
      · cases hSame
        exact ⟨announced?_header hHeader left, hLimit⟩
      · rw [announced?_header hHeader, Option.some.injEq] at hSame
        rw [hSame]
      · rw [announced?_header hHeader, Option.some.injEq] at hSame
        exact absurd hLimit (Nat.not_lt.2 (hSame ▸ hWithin))
      · rw [announced?_header hHeader] at hNone
        cases hNone
  | @cut length part hHeader hLimit hPart =>
      have hLess : (frameHeader length ++ part).length < headerWidth + length := by
        have hWidth : (frameHeader length).length = headerWidth := length_bigEndian ..
        rw [List.length_append, hWidth]
        omega
      refine ⟨.inr (.inr rfl), fun other => ⟨nofun, fun ⟨hSame, hOver⟩ => ?_⟩,
        ⟨fun _ => ⟨length, announced?_header hHeader part, hLimit, hLess⟩, fun _ => rfl⟩,
        ⟨nofun, fun hNone => ?_⟩⟩
      · rw [announced?_header hHeader, Option.some.injEq] at hSame
        exact absurd hLimit (Nat.not_le.2 (hSame ▸ hOver))
      · rw [announced?_header hHeader] at hNone
        cases hNone

namespace Feed

/-- Whatever the bytes of a stream are, they alone decide what is read from it, in whatever pieces
they arrive. It is frames from the front with payloads that are admitted, and at most one error
after them: that the next header announces too much, or that the payload it announces is cut off.
There is no other error, so no frame is left unread. -/
theorem frames_of_bytes (limit : Nat) (bytes : Bytes) :
    ∃ (payloads : List Bytes) (rest : Bytes) (failure : Option FrameError),
      (∀ chunks : List Bytes, chunks.flatten = bytes →
        frames limit ⟨chunks, .ended⟩ = payloads.map .ok ++ failure.toList.map .error) ∧
      bytes = payloads.flatMap frame ++ rest ∧ (∀ payload ∈ payloads, payload.length ≤ limit) ∧
      (failure = none ∨ (∃ length, failure = some (.tooLarge length limit)) ∨
        failure = some (.io .earlyEof)) ∧
      (∀ length, failure = some (.tooLarge length limit) ↔
        announced? rest = some length ∧ limit < length) ∧
      (failure = some (.io .earlyEof) ↔ ∃ length, announced? rest = some length ∧
        length ≤ limit ∧ rest.length < headerWidth + length) ∧
      (failure = none ↔ announced? rest = none) := by
  have hOne := readsFrames_frames limit [bytes]
  rw [List.flatten_singleton] at hOne
  obtain ⟨payloads, rest, left, failure, hPayloads, hBytes, hItems, hNot, hRead⟩ :=
    hOne.exists_failure
  obtain ⟨hReasons, hTooLarge, hCut, hClosed⟩ := hRead.failure_iff
  refine ⟨payloads, rest, failure, fun chunks hChunks => ?_, hBytes,
    fun payload hPayload => (hPayloads payload hPayload).limit, ?_⟩
  · have hFrames := readsFrames_frames limit chunks
    rw [hChunks] at hFrames
    exact (hFrames.unique hOne).trans hItems
  · have hSome (error : FrameError) (hError : error ≠ .closed) :
        failure = some error ↔ failure.getD .closed = error := by
      cases failure with
      | none => simp [hError.symm]
      | some found => simp
    have hNone : failure = none ↔ failure.getD .closed = .closed := by
      cases failure with
      | none => simp
      | some found => simpa using hNot
    refine ⟨?_, fun length => (hSome (.tooLarge length limit) nofun).trans (hTooLarge length),
      (hSome (.io .earlyEof) nofun).trans hCut, hNone.trans hClosed⟩
    rcases hReasons with hEnd | ⟨length, hLarge⟩ | hEarly
    · exact .inl (hNone.2 hEnd)
    · exact .inr (.inl ⟨length, (hSome (.tooLarge length limit) nofun).2 hLarge⟩)
    · exact .inr (.inr ((hSome (.io .earlyEof) nofun).2 hEarly))

end Feed

end ConfigExchange
