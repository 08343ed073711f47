import ConfigExchange.Proofs.Frame.Reading

/-! The frames of a stream that comes to its end. What is read depends on the bytes and not on the
pieces in which they arrive: frames from the front, and then an error, unless what is left is
shorter than a header. -/
namespace ConfigExchange

/-! ### One frame -/

theorem frameHeader_append_inj {a b : Nat} {front back : Bytes} (ha : a < byteRange headerWidth)
    (hb : b < byteRange headerWidth) (h : frameHeader a ++ front = frameHeader b ++ back) :
    a = b ∧ front = back := by
  obtain ⟨hHeader, hRest⟩ := List.append_inj h (by simp [frameHeader])
  have hNumber := congrArg ofBigEndian hHeader
  rw [frameHeader, frameHeader, ofBigEndian_bigEndian ha, ofBigEndian_bigEndian hb] at hNumber
  exact ⟨hNumber, hRest⟩

theorem headerWidth_le_length_append (length : Nat) (rest : Bytes) :
    headerWidth ≤ (frameHeader length ++ rest).length := by
  simp [frameHeader]

theorem frame_append (payload rest : Bytes) :
    frame payload ++ rest = frameHeader payload.length ++ (payload ++ rest) :=
  List.append_assoc ..

/-- A payload that a header can announce and that is admitted. -/
structure Admitted (limit : Nat) (payload : Bytes) : Prop where
  limit : payload.length ≤ limit
  header : payload.length < byteRange headerWidth

/-- What comes of reading a frame from what is left of a stream, and what is left after that. -/
inductive ReadsFrame (limit : Nat) : Bytes → Except FrameError Bytes → Bytes → Prop where
  /-- The stream ends before there is a whole header. -/
  | closed {bytes : Bytes} (hShort : bytes.length < headerWidth) :
      ReadsFrame limit bytes (.error .closed) []
  | tooLarge {length : Nat} {rest : Bytes} (hHeader : length < byteRange headerWidth)
      (hLimit : limit < length) :
      ReadsFrame limit (frameHeader length ++ rest) (.error (.tooLarge length limit)) rest
  /-- The stream ends before the payload does. -/
  | cut {length : Nat} {part : Bytes} (hHeader : length < byteRange headerWidth)
      (hLimit : length ≤ limit) (hPart : part.length < length) :
      ReadsFrame limit (frameHeader length ++ part) (.error (.io .earlyEof)) []
  | frame {payload rest : Bytes} (hPayload : Admitted limit payload) :
      ReadsFrame limit (frame payload ++ rest) (.ok payload) rest

/-- What is read after a header depends on what follows the header. -/
theorem ReadsFrame.after_header {limit length : Nat} {after rest : Bytes}
    {answer : Except FrameError Bytes} (hHeader : length < byteRange headerWidth)
    (h : ReadsFrame limit (frameHeader length ++ after) answer rest) :
    limit < length ∧ answer = .error (.tooLarge length limit) ∧ rest = after ∨
      length ≤ limit ∧ after.length < length ∧ answer = .error (.io .earlyEof) ∧ rest = [] ∨
      length ≤ limit ∧ ∃ payload, payload.length = length ∧ after = payload ++ rest ∧
        answer = .ok payload := by
  generalize hBytes : frameHeader length ++ after = bytes at h
  cases h with
  | closed hShort =>
      rw [← hBytes] at hShort
      exact absurd hShort (Nat.not_lt.2 (headerWidth_le_length_append length after))
  | tooLarge hOther hLimit =>
      obtain ⟨rfl, rfl⟩ := frameHeader_append_inj hHeader hOther hBytes
      exact .inl ⟨hLimit, rfl, rfl⟩
  | cut hOther hLimit hPart =>
      obtain ⟨rfl, rfl⟩ := frameHeader_append_inj hHeader hOther hBytes
      exact .inr (.inl ⟨hLimit, hPart, rfl, rfl⟩)
  | @frame payload rest hPayload =>
      rw [frame_append] at hBytes
      obtain ⟨rfl, rfl⟩ := frameHeader_append_inj hHeader hPayload.header hBytes
      exact .inr (.inr ⟨hPayload.limit, payload, rfl, rfl, rfl⟩)

/-- The bytes alone decide what is read. -/
theorem ReadsFrame.unique {limit : Nat} {bytes restA restB : Bytes}
    {answerA answerB : Except FrameError Bytes} (hA : ReadsFrame limit bytes answerA restA)
    (hB : ReadsFrame limit bytes answerB restB) : answerA = answerB ∧ restA = restB := by
  cases hA with
  | closed hShort =>
      cases hB with
      | closed => exact ⟨rfl, rfl⟩
      | tooLarge | cut => exact absurd hShort (Nat.not_lt.2 (headerWidth_le_length_append _ _))
      | frame =>
          rw [frame_append] at hShort
          exact absurd hShort (Nat.not_lt.2 (headerWidth_le_length_append _ _))
  | tooLarge hHeader hLimit =>
      obtain ⟨-, rfl, rfl⟩ | ⟨hOther, -⟩ | ⟨hOther, -⟩ := hB.after_header hHeader
      · exact ⟨rfl, rfl⟩
      · exact absurd hLimit (Nat.not_lt.2 hOther)
      · exact absurd hLimit (Nat.not_lt.2 hOther)
  | cut hHeader hLimit hPart =>
      obtain ⟨hOther, -⟩ | ⟨-, -, rfl, rfl⟩ | ⟨-, payload, hLength, rfl, rfl⟩ :=
        hB.after_header hHeader
      · exact absurd hOther (Nat.not_lt.2 hLimit)
      · exact ⟨rfl, rfl⟩
      · rw [List.length_append] at hPart
        omega
  | @frame payload rest hPayload =>
      rw [frame_append] at hB
      obtain ⟨hOther, -⟩ | ⟨-, hPart, -⟩ | ⟨-, other, hLength, hAfter, rfl⟩ :=
        hB.after_header hPayload.header
      · exact absurd hOther (Nat.not_lt.2 hPayload.limit)
      · rw [List.length_append] at hPart
        omega
      · obtain ⟨rfl, rfl⟩ := List.append_inj hAfter hLength.symm
        exact ⟨rfl, rfl⟩

namespace Feed

/-- A feed that has an end brings bytes up to it. -/
theorem read_of_ended {feed : Feed} (hEnded : feed.ending = .ended) (n : Nat) :
    match feed.read n with
    | (.data _, rest) => rest.ending = .ended
    | (.ended, rest) => rest.ending = .ended
    | (.failed _, _) => False
    | (.pending, _) => False := by
  obtain ⟨chunks, ending⟩ := feed
  cases hEnded
  simp only [read]
  induction chunks with
  | nil => rfl
  | cons chunk chunks ih =>
      cases chunk with
      | nil => exact ih
      | cons byte bytes => rfl

/-- A frame that is being read is read to its end, or as far as the stream goes. -/
theorem readsFrame_finishFrame {limit : Nat} {reading : FrameReading} {feed : Feed}
    (hWithin : reading.Within (longestPayload limit)) (hEnded : feed.ending = .ended) :
    ∃ answer rest, feed.finishFrame limit reading = (some answer, rest) ∧ rest.ending = .ended ∧
      ReadsFrame limit (reading.got ++ feed.chunks.flatten) answer rest.chunks.flatten := by
  have hRead := feed.read_cases reading.missing_pos
  have hEnding := read_of_ended hEnded reading.missing
  fun_induction finishFrame limit reading feed with
  | case1 reading feed rest hBytes | case6 reading feed error rest hBytes
  | case7 reading feed error rest hBytes | case8 reading feed error rest hBytes =>
      rw [hBytes] at hEnding
      exact hEnding.elim
  | case2 reading feed rest hBytes =>
      rw [hBytes] at hRead hEnding
      refine ⟨_, rest, rfl, hEnding, ?_⟩
      rw [hRead.1, hRead.2, List.append_nil]
      cases reading with
      | header got short => exact .closed short
      | payload missing pieces more =>
          obtain ⟨hLimit, hHeader⟩ := of_le_longestPayload hWithin
          exact .cut hHeader hLimit (Nat.lt_add_of_pos_right more)
  | case3 reading feed bytes rest hBytes hLess next hAdd ih =>
      rw [hBytes] at hRead hEnding
      obtain ⟨-, hMissing, hFlatten⟩ := hRead
      have hNext := FrameReading.add_cases hWithin hMissing
      rw [hAdd] at hNext
      rw [hFlatten, ← List.append_assoc, ← hNext.2]
      exact ih hNext.1 hEnding (rest.read_cases next.missing_pos) (read_of_ended hEnding _)
  | case4 reading feed bytes rest hBytes hLess payload hAdd =>
      rw [hBytes] at hRead hEnding
      obtain ⟨-, hMissing, hFlatten⟩ := hRead
      have hNext := FrameReading.add_cases hWithin hMissing
      rw [hAdd] at hNext
      obtain ⟨hLimit, hHeader⟩ := of_le_longestPayload hNext.1
      refine ⟨_, rest, rfl, hEnding, ?_⟩
      rw [hFlatten, ← List.append_assoc, ← hNext.2]
      exact .frame ⟨hLimit, hHeader⟩
  | case5 reading feed bytes rest hBytes hLess error hAdd =>
      rw [hBytes] at hRead hEnding
      obtain ⟨-, hMissing, hFlatten⟩ := hRead
      have hNext := FrameReading.add_cases hWithin hMissing
      rw [hAdd] at hNext
      obtain ⟨length, hLimit, hHeader, rfl, hGot⟩ := hNext
      refine ⟨_, rest, rfl, hEnding, ?_⟩
      rw [hFlatten, ← List.append_assoc, ← hGot]
      exact .tooLarge hHeader hLimit

theorem readsFrame_readFrame (limit : Nat) (chunks : List Bytes) :
    ∃ answer rest, readFrame limit ⟨chunks, .ended⟩ = (some answer, ⟨rest, .ended⟩) ∧
      ReadsFrame limit chunks.flatten answer rest.flatten := by
  have hStart : FrameReading.start.Within (longestPayload limit) := trivial
  obtain ⟨answer, ⟨rest, ending⟩, hFrame, hEnding, hReads⟩ :=
    @readsFrame_finishFrame limit .start ⟨chunks, .ended⟩ hStart rfl
  cases hEnding
  exact ⟨answer, rest, hFrame, hReads⟩

end Feed

/-! ### All frames -/

/-- What comes of reading frames from what is left of a stream, up to its end. -/
inductive ReadsFrames (limit : Nat) : Bytes → List (Except FrameError Bytes) → Prop where
  | closed {bytes rest : Bytes} (hRead : ReadsFrame limit bytes (.error .closed) rest) :
      ReadsFrames limit bytes []
  | failed {bytes rest : Bytes} {error : FrameError}
      (hRead : ReadsFrame limit bytes (.error error) rest) (hError : error ≠ .closed) :
      ReadsFrames limit bytes [.error error]
  | frame {bytes rest payload : Bytes} {items : List (Except FrameError Bytes)}
      (hRead : ReadsFrame limit bytes (.ok payload) rest) (hRest : ReadsFrames limit rest items) :
      ReadsFrames limit bytes (.ok payload :: items)

namespace ReadsFrames

variable {limit : Nat} {bytes : Bytes} {items others : List (Except FrameError Bytes)}

theorem unique (hItems : ReadsFrames limit bytes items) (hOthers : ReadsFrames limit bytes others) :
    items = others := by
  induction hItems generalizing others with
  | closed hRead =>
      cases hOthers with
      | closed => rfl
      | failed hOther hError =>
          cases (hRead.unique hOther).1
          exact absurd rfl hError
      | frame hOther => cases (hRead.unique hOther).1
  | failed hRead hError =>
      cases hOthers with
      | closed hOther =>
          cases (hRead.unique hOther).1
          exact absurd rfl hError
      | failed hOther =>
          cases (hRead.unique hOther).1
          rfl
      | frame hOther => cases (hRead.unique hOther).1
  | frame hRead hRest ih =>
      cases hOthers with
      | closed hOther => cases (hRead.unique hOther).1
      | failed hOther => cases (hRead.unique hOther).1
      | frame hOther hOtherRest =>
          obtain ⟨hSame, rfl⟩ := hRead.unique hOther
          cases hSame
          rw [ih hOtherRest]

/-- Frames at the front of a stream are read one after the other. -/
theorem append {payloads : List Bytes} (hPayloads : ∀ payload ∈ payloads, Admitted limit payload)
    (hItems : ReadsFrames limit bytes items) :
    ReadsFrames limit (payloads.flatMap ConfigExchange.frame ++ bytes)
      (payloads.map .ok ++ items) := by
  induction payloads with
  | nil => exact hItems
  | cons payload rest ih =>
      rw [List.flatMap_cons, List.append_assoc]
      exact .frame (.frame (hPayloads payload List.mem_cons_self))
        (ih fun later hLater => hPayloads later (List.mem_cons_of_mem _ hLater))

/-- What is read of a stream are the frames at its front, and then an error, unless it is closed
after them. -/
theorem exists_failure (hItems : ReadsFrames limit bytes items) :
    ∃ (payloads : List Bytes) (rest left : Bytes) (failure : Option FrameError),
      (∀ payload ∈ payloads, Admitted limit payload) ∧
        bytes = payloads.flatMap ConfigExchange.frame ++ rest ∧
        items = payloads.map .ok ++ failure.toList.map .error ∧ failure ≠ some .closed ∧
        ReadsFrame limit rest (.error (failure.getD .closed)) left := by
  induction hItems with
  | @closed bytes left hRead =>
      exact ⟨[], bytes, left, none, fun _ hMem => absurd hMem List.not_mem_nil, rfl, rfl, by simp,
        hRead⟩
  | @failed bytes left error hRead hError =>
      exact ⟨[], bytes, left, some error, fun _ hMem => absurd hMem List.not_mem_nil, rfl, rfl,
        by simpa using hError, hRead⟩
  | @frame bytes rest payload items hRead hRest ih =>
      obtain ⟨payloads, last, left, failure, hPayloads, rfl, rfl, hFailure, hLast⟩ := ih
      cases hRead with
      | frame hPayload =>
          refine ⟨payload :: payloads, last, left, failure,
            List.forall_mem_cons.2 ⟨hPayload, hPayloads⟩, ?_, rfl, hFailure, hLast⟩
          rw [List.flatMap_cons, List.append_assoc]

/-- Where no error is read there are frames, and after them less than a header. -/
theorem exists_payloads (hItems : ReadsFrames limit bytes items)
    (hNone : ∀ error, .error error ∉ items) :
    ∃ (payloads : List Bytes) (rest : Bytes), (∀ payload ∈ payloads, Admitted limit payload) ∧
      bytes = payloads.flatMap ConfigExchange.frame ++ rest ∧ rest.length < headerWidth := by
  obtain ⟨payloads, rest, left, failure, hPayloads, hBytes, rfl, -, hRead⟩ := hItems.exists_failure
  cases failure with
  | some error => exact absurd (List.mem_append_right _ List.mem_cons_self) (hNone error)
  | none =>
      cases hRead with
      | closed hShort => exact ⟨payloads, rest, hPayloads, hBytes, hShort⟩

end ReadsFrames

namespace Feed

theorem readsFrames_frames (limit : Nat) (chunks : List Bytes) :
    ReadsFrames limit chunks.flatten (frames limit ⟨chunks, .ended⟩) := by
  induction hWeight : (Feed.mk chunks .ended).weight using Nat.strongRecOn generalizing chunks with
  | ind weight ih =>
      obtain ⟨answer, rest, hFrame, hReads⟩ := readsFrame_readFrame limit chunks
      rw [frames_eq, hFrame]
      cases answer with
      | error error =>
          cases error with
          | closed => exact .closed hReads
          | tooLarge | io => exact .failed hReads (by simp)
      | ok payload =>
          have hLess := weight_finishFrame_lt hFrame
          exact .frame hReads (ih _ (hWeight ▸ hLess) rest rfl)

/-- Frames at the front of a stream come first, and then what the rest of it is read as. -/
theorem frames_of_flatten {limit : Nat} {chunks payloads : List Bytes} {rest : Bytes}
    {items : List (Except FrameError Bytes)}
    (hPayloads : ∀ payload ∈ payloads, Admitted limit payload)
    (hChunks : chunks.flatten = payloads.flatMap frame ++ rest)
    (hRest : ReadsFrames limit rest items) :
    frames limit ⟨chunks, .ended⟩ = payloads.map .ok ++ items := by
  have hFrames := readsFrames_frames limit chunks
  rw [hChunks] at hFrames
  exact hFrames.unique (hRest.append hPayloads)

/-- No error is read exactly from frames after which there is less than a header. If the stream ends
inside a payload, the last item is an error; if it ends inside a header, there is none. -/
theorem frames_tell_cuts (limit : Nat) (chunks : List Bytes) :
    ((∀ error, .error error ∉ frames limit ⟨chunks, .ended⟩) ↔
      ∃ (payloads : List Bytes) (rest : Bytes), (∀ payload ∈ payloads, Admitted limit payload) ∧
        chunks.flatten = payloads.flatMap frame ++ rest ∧ rest.length < headerWidth) ∧
    (∀ (payloads : List Bytes) (length : Nat) (part : Bytes),
      (∀ payload ∈ payloads, Admitted limit payload) → length < byteRange headerWidth →
      part.length < length →
      chunks.flatten = payloads.flatMap frame ++ (frameHeader length ++ part) →
        frames limit ⟨chunks, .ended⟩ = payloads.map .ok ++
          [.error (if limit < length then .tooLarge length limit else .io .earlyEof)]) ∧
    (∀ (payloads : List Bytes) (part : Bytes), (∀ payload ∈ payloads, Admitted limit payload) →
      part.length < headerWidth → chunks.flatten = payloads.flatMap frame ++ part →
        frames limit ⟨chunks, .ended⟩ = payloads.map .ok) := by
  have hHeader : ∀ (payloads : List Bytes) (part : Bytes),
      (∀ payload ∈ payloads, Admitted limit payload) → part.length < headerWidth →
      chunks.flatten = payloads.flatMap frame ++ part →
        frames limit ⟨chunks, .ended⟩ = payloads.map .ok := by
    intro payloads part hPayloads hPart hChunks
    rw [frames_of_flatten hPayloads hChunks (.closed (.closed hPart)), List.append_nil]
  refine ⟨⟨(readsFrames_frames limit chunks).exists_payloads, ?_⟩, ?_, hHeader⟩
  · rintro ⟨payloads, rest, hPayloads, hChunks, hRest⟩ error hError
    rw [hHeader payloads rest hPayloads hRest hChunks] at hError
    obtain ⟨payload, -, hSame⟩ := List.mem_map.1 hError
    cases hSame
  · intro payloads length part hPayloads hLength hPart hChunks
    refine frames_of_flatten hPayloads hChunks ?_
    by_cases hLimit : limit < length
    · rw [if_pos hLimit]
      exact .failed (.tooLarge hLength hLimit) (by simp)
    · rw [if_neg hLimit]
      exact .failed (.cut hLength (Nat.le_of_not_lt hLimit) hPart) (by simp)

theorem frames_tell_cut_payload :
    (∀ payload ∈ [[7]], Admitted 16 payload) ∧
      frames 16 ⟨[[0, 0, 0, 1, 7, 0], [0, 0, 3, 1], [2]], .ended⟩ =
        [.ok [7], .error (.io .earlyEof)] := by
  have hPayloads : ∀ payload ∈ [[7]], Admitted 16 payload :=
    List.forall_mem_singleton.2 ⟨by decide, by decide⟩
  exact ⟨hPayloads, (frames_tell_cuts 16 [[0, 0, 0, 1, 7, 0], [0, 0, 3, 1], [2]]).2.1 [[7]] 3 [1, 2]
    hPayloads (by decide) (by decide) rfl⟩

/-- A frame, and the first half of a header: no error is read, though this is no list of frames. -/
theorem cut_header_untold :
    frames 16 ⟨[[0, 0, 0, 1, 7], [0, 0]], .ended⟩ = [.ok [7]] ∧
      ¬ ∃ payloads : List Bytes, (∀ payload ∈ payloads, Admitted 16 payload) ∧
        [[0, 0, 0, 1, 7], [0, 0]].flatten = payloads.flatMap frame := by
  have hPayloads : ∀ payload ∈ [[7]], Admitted 16 payload :=
    List.forall_mem_singleton.2 ⟨by decide, by decide⟩
  have hChunks : [[0, 0, 0, 1, 7], [0, 0]].flatten = [[7]].flatMap frame ++ [0, 0] := rfl
  have hFrames : frames 16 ⟨[[0, 0, 0, 1, 7], [0, 0]], .ended⟩ = [.ok [7]] :=
    frames_of_flatten hPayloads hChunks (.closed (.closed (by decide)))
  refine ⟨hFrames, ?_⟩
  rintro ⟨payloads, hAdmitted, hBytes⟩
  have hAll := frames_of_flatten hAdmitted (hBytes.trans (List.append_nil _).symm)
    (.closed (.closed (by decide)))
  rw [hFrames, List.append_nil] at hAll
  have hSame : payloads = [[7]] := by
    cases payloads with
    | nil => cases hAll
    | cons first rest =>
        cases rest with
        | nil =>
            cases hAll
            rfl
        | cons => cases hAll
  rw [hSame] at hBytes
  exact absurd hBytes (by decide)

end Feed

end ConfigExchange
