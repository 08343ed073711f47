import ConfigExchange.Frame.Reading

/-! Reading one frame from a feed. However the bytes arrive, a frame is read exactly when the stream
begins with it, and what follows it stays. -/
namespace ConfigExchange

/-- The longest payload that is read: it is admitted, and a header can announce it. -/
def longestPayload (limit : Nat) : Nat := min limit (byteRange headerWidth - 1)

theorem le_longestPayload {limit length : Nat} (hLimit : length ≤ limit)
    (hHeader : length < byteRange headerWidth) : length ≤ longestPayload limit :=
  Nat.le_min.2 ⟨hLimit, Nat.le_sub_one_of_lt hHeader⟩

theorem of_le_longestPayload {limit length : Nat} (hLength : length ≤ longestPayload limit) :
    length ≤ limit ∧ length < byteRange headerWidth := by
  obtain ⟨hLimit, hHeader⟩ := Nat.le_min.1 hLength
  exact ⟨hLimit, Nat.lt_of_le_sub_one (byteRange_pos _) hHeader⟩

namespace FrameReading

/-- What is still to be read of the frame of a payload. -/
inductive Expects (payload : Bytes) : FrameReading → Bytes → Prop where
  | header {got unread : Bytes} (short : got.length < headerWidth)
      (hFrame : got ++ unread = frame payload) : Expects payload (.header got short) unread
  | payload {pieces : List Bytes} {unread : Bytes} (more : 0 < unread.length)
      (hPayload : pieces.reverse.flatten ++ unread = payload) :
      Expects payload (.payload unread.length pieces more) unread

variable {payload : Bytes} {reading : FrameReading} {unread : Bytes}

theorem expects_start (payload : Bytes) : start.Expects payload (frame payload) :=
  .header (by decide) (List.nil_append _)

theorem Expects.ne_nil (hExpects : reading.Expects payload unread) : unread ≠ [] := by
  rintro rfl
  cases hExpects with
  | header short hFrame =>
      have hLength := congrArg List.length hFrame
      simp only [List.append_nil, frame, frameHeader, List.length_append,
        length_bigEndian] at hLength
      omega
  | payload more hPayload => cases more

/-- Bytes from the front of what is to be read bring the reading nearer to its end. -/
theorem Expects.add {bytes rest : Bytes} {limit : Nat}
    (hExpects : reading.Expects payload (bytes ++ rest)) (hMissing : bytes.length ≤ reading.missing)
    (hLimit : payload.length ≤ limit) (hHeader : payload.length < byteRange headerWidth) :
    (∃ next, reading.add limit bytes = .going next ∧ next.Expects payload rest) ∨
      reading.add limit bytes = .complete payload ∧ rest = [] := by
  cases hExpects with
  | @header got _ short hFrame =>
      rw [← List.append_assoc] at hFrame
      by_cases hShort : (got ++ bytes).length < headerWidth
      · exact .inl ⟨.header (got ++ bytes) hShort, by simp only [FrameReading.add, dif_pos hShort],
          .header hShort hFrame⟩
      · -- The header is whole, so what is still to be read is the payload and nothing else.
        have hWidth : (got ++ bytes).length = (frameHeader payload.length).length := by
          simp only [missing] at hMissing
          simp only [List.length_append, frameHeader, length_bigEndian] at hShort ⊢
          omega
        obtain ⟨hGot, hRest⟩ := List.append_inj hFrame hWidth
        simp only [FrameReading.add, dif_neg hShort]
        rw [hGot, frameHeader, ofBigEndian_bigEndian hHeader, if_neg (Nat.not_lt.2 hLimit), hRest]
        by_cases hMore : 0 < payload.length
        · rw [dif_pos hMore]
          exact .inl ⟨_, rfl, .payload hMore (List.nil_append _)⟩
        · have hEmpty : payload = [] := List.length_eq_zero_iff.1 (Nat.eq_zero_of_not_pos hMore)
          rw [dif_neg hMore, hEmpty]
          exact .inr ⟨rfl, rfl⟩
  | @payload pieces _ more hPayload =>
      have hLength : (bytes ++ rest).length - bytes.length = rest.length := by simp
      have hPieces : (bytes :: pieces).reverse.flatten ++ rest = payload := by
        rw [← hPayload]
        simp
      simp only [FrameReading.add, hLength]
      by_cases hMore : 0 < rest.length
      · rw [dif_pos hMore]
        exact .inl ⟨_, rfl, .payload hMore hPieces⟩
      · have hEmpty : rest = [] := List.length_eq_zero_iff.1 (Nat.eq_zero_of_not_pos hMore)
        rw [dif_neg hMore]
        rw [hEmpty, List.append_nil] at hPieces
        exact .inr ⟨by rw [hPieces], hEmpty⟩

/-- No more is asked for than is expected. -/
theorem Expects.missing_le (hExpects : reading.Expects payload unread) :
    reading.missing ≤ unread.length := by
  cases hExpects with
  | header short hFrame =>
      have hLength := congrArg List.length hFrame
      simp only [List.length_append, frame, frameHeader, length_bigEndian] at hLength
      simp only [missing]
      omega
  | payload => exact Nat.le_refl _

/-- What a read brings of the bytes that are expected are the first of them. -/
theorem Expects.exists_rest {bytes rest tail : Bytes} (hExpects : reading.Expects payload unread)
    (hMissing : bytes.length ≤ reading.missing) (hBytes : bytes ++ rest = unread ++ tail) :
    ∃ left, unread = bytes ++ left ∧ rest = left ++ tail := by
  have hLength := Nat.le_trans hMissing hExpects.missing_le
  refine ⟨unread.drop bytes.length, ?_, ?_⟩
  · have hTake := congrArg (List.take bytes.length) hBytes
    rw [List.take_left, List.take_append_of_le_length hLength] at hTake
    conv => lhs; rw [← List.take_append_drop bytes.length unread, ← hTake]
  · have hDrop := congrArg (List.drop bytes.length) hBytes
    rwa [List.drop_left, List.drop_append_of_le_length hLength] at hDrop

/-- What was read of a frame so far. -/
def got : FrameReading → Bytes
  | .header got _ => got
  | .payload missing pieces _ =>
    frameHeader (pieces.reverse.flatten.length + missing) ++ pieces.reverse.flatten

/-- The frame that is being read is no larger than is admitted. -/
def Within (limit : Nat) : FrameReading → Prop
  | .header .. => True
  | .payload missing pieces _ => pieces.reverse.flatten.length + missing ≤ limit

/-- What bytes make of a frame that is being read. -/
theorem add_cases {limit : Nat} {bytes : Bytes} (hWithin : reading.Within (longestPayload limit))
    (hMissing : bytes.length ≤ reading.missing) :
    match reading.add limit bytes with
    | .going next =>
      next.Within (longestPayload limit) ∧ next.got = reading.got ++ bytes
    | .complete payload =>
      payload.length ≤ longestPayload limit ∧ frame payload = reading.got ++ bytes
    | .failed error => ∃ length, limit < length ∧ length < byteRange headerWidth ∧
      error = .tooLarge length limit ∧ frameHeader length = reading.got ++ bytes := by
  cases reading with
  | header front short =>
      simp only [add]
      by_cases hShort : (front ++ bytes).length < headerWidth
      · rw [dif_pos hShort]
        exact ⟨trivial, rfl⟩
      · -- The header is whole.
        have hWidth : (front ++ bytes).length = headerWidth := by
          simp only [missing] at hMissing
          simp only [List.length_append] at hShort ⊢
          omega
        have hRange : ofBigEndian (front ++ bytes) < byteRange headerWidth := by
          rw [← hWidth]
          exact ofBigEndian_lt _
        have hHeader : frameHeader (ofBigEndian (front ++ bytes)) = front ++ bytes := by
          rw [frameHeader, ← hWidth]
          exact bigEndian_ofBigEndian _
        rw [dif_neg hShort]
        by_cases hLimit : limit < ofBigEndian (front ++ bytes)
        · rw [if_pos hLimit]
          exact ⟨_, hLimit, hRange, rfl, hHeader⟩
        · rw [if_neg hLimit]
          by_cases hMore : 0 < ofBigEndian (front ++ bytes)
          · rw [dif_pos hMore]
            refine ⟨?_, ?_⟩
            · simpa [Within] using le_longestPayload (Nat.le_of_not_lt hLimit) hRange
            · simpa [got] using hHeader
          · rw [dif_neg hMore]
            rw [Nat.eq_zero_of_not_pos hMore] at hHeader
            exact ⟨Nat.zero_le _, by simpa [frame, got] using hHeader⟩
  | payload left pieces more =>
      simp only [add]
      simp only [missing] at hMissing
      simp only [Within] at hWithin
      have hPieces : (bytes :: pieces).reverse.flatten = pieces.reverse.flatten ++ bytes := by simp
      by_cases hMore : 0 < left - bytes.length
      · rw [dif_pos hMore]
        have hSum : (pieces.reverse.flatten ++ bytes).length + (left - bytes.length) =
            pieces.reverse.flatten.length + left := by
          rw [List.length_append]
          omega
        refine ⟨?_, ?_⟩
        · simp only [Within, hPieces, hSum]
          exact hWithin
        · simp only [got, hPieces, hSum, List.append_assoc]
      · rw [dif_neg hMore]
        have hSum : (pieces.reverse.flatten ++ bytes).length =
            pieces.reverse.flatten.length + left := by
          rw [List.length_append]
          omega
        simp only [hPieces, frame, got, hSum, List.append_assoc]
        exact ⟨hWithin, trivial⟩

end FrameReading

namespace Feed

/-- What a read takes from a feed: some of its first bytes, and nothing only if there are none. -/
theorem read_cases (feed : Feed) {n : Nat} (hn : 0 < n) :
    match feed.read n with
    | (.data bytes, rest) => bytes ≠ [] ∧ bytes.length ≤ n ∧
      feed.chunks.flatten = bytes ++ rest.chunks.flatten
    | (_, rest) => feed.chunks.flatten = [] ∧ rest.chunks.flatten = [] := by
  obtain ⟨chunks, ending⟩ := feed
  simp only [read]
  induction chunks with
  | nil => cases ending <;> exact ⟨rfl, rfl⟩
  | cons chunk chunks ih =>
      cases chunk with
      | nil => exact ih
      | cons byte bytes =>
          refine ⟨by simp [Nat.ne_of_gt hn], List.length_take_le .., ?_⟩
          simp only [List.flatten_cons, ← List.append_assoc, List.take_append_drop]

/-- What holds of the reading of a frame. It is made of reads, each of which is taken up: the
reading goes on, or comes to its end, or the feed is silent. -/
theorem finishFrame_induction {limit : Nat}
    {motive : FrameReading → Feed → Option (Except FrameError Bytes) × Feed → Prop}
    (silent : ∀ reading feed rest,
      feed.read reading.missing = (.pending, rest) → motive reading feed (none, rest))
    (going : ∀ reading feed answer rest next, feed.read reading.missing = (answer, rest) →
      answer ≠ .pending → reading.resume limit answer = .going next → rest.weight < feed.weight →
        motive next rest (rest.finishFrame limit next) →
          motive reading feed (rest.finishFrame limit next))
    (complete : ∀ reading feed answer rest payload, feed.read reading.missing = (answer, rest) →
      answer ≠ .pending → reading.resume limit answer = .complete payload →
        motive reading feed (some (.ok payload), rest))
    (failed : ∀ reading feed answer rest error, feed.read reading.missing = (answer, rest) →
      answer ≠ .pending → reading.resume limit answer = .failed error →
        motive reading feed (some (.error error), rest))
    (reading : FrameReading) (feed : Feed) :
    motive reading feed (feed.finishFrame limit reading) := by
  fun_induction finishFrame limit reading feed with
  | case1 reading feed rest hRead => exact silent reading feed rest hRead
  | case2 reading feed rest hRead =>
      exact failed reading feed .ended rest _ hRead (fun hSame => by cases hSame) rfl
  | case3 reading feed bytes rest hRead hLess next hAdd ih =>
      exact going reading feed (.data bytes) rest next hRead (fun hSame => by cases hSame) hAdd
        hLess ih
  | case4 reading feed bytes rest hRead hLess payload hAdd =>
      exact complete reading feed (.data bytes) rest payload hRead (fun hSame => by cases hSame)
        hAdd
  | case5 reading feed bytes rest hRead hLess error hAdd =>
      exact failed reading feed (.data bytes) rest error hRead (fun hSame => by cases hSame) hAdd
  | case6 reading feed error rest hRead hLess next hFail ih =>
      exact going reading feed (.failed error) rest next hRead (fun hSame => by cases hSame) hFail
        hLess ih
  | case7 reading feed error rest hRead hLess payload hFail =>
      exact complete reading feed (.failed error) rest payload hRead (fun hSame => by cases hSame)
        hFail
  | case8 reading feed error rest hRead hLess failure hFail =>
      exact failed reading feed (.failed error) rest failure hRead (fun hSame => by cases hSame)
        hFail

/-- A frame that was read is what the feed began with. -/
theorem flatten_of_finishFrame {limit : Nat} {reading : FrameReading} {feed rest : Feed}
    {payload : Bytes} (hWithin : reading.Within (longestPayload limit))
    (hFrame : feed.finishFrame limit reading = (some (.ok payload), rest)) :
    payload.length ≤ longestPayload limit ∧
      reading.got ++ feed.chunks.flatten = frame payload ++ rest.chunks.flatten := by
  have hRead := feed.read_cases reading.missing_pos
  fun_induction finishFrame limit reading feed with
  | case1 | case2 | case5 | case8 => simp at hFrame
  | case3 reading feed bytes middle hBytes hLess next hAdd ih =>
      rw [hBytes] at hRead
      obtain ⟨-, hMissing, hFlatten⟩ := hRead
      have hNext := FrameReading.add_cases hWithin hMissing
      rw [hAdd] at hNext
      obtain ⟨hLimit, hLast⟩ := ih hNext.1 hFrame (middle.read_cases next.missing_pos)
      refine ⟨hLimit, ?_⟩
      rw [hFlatten, ← List.append_assoc, ← hNext.2, hLast]
  | case4 reading feed bytes middle hBytes hLess found hAdd =>
      rw [hBytes] at hRead
      obtain ⟨-, hMissing, hFlatten⟩ := hRead
      have hNext := FrameReading.add_cases hWithin hMissing
      rw [hAdd] at hNext
      cases hFrame
      exact ⟨hNext.1, by rw [hFlatten, ← List.append_assoc, hNext.2]⟩
  | case6 reading feed error middle hBytes hLess next hFail ih =>
      rw [hBytes] at hRead
      -- A failed read that is tried again leaves the reading where it was.
      have hSame : next = reading := by
        unfold FrameReading.fail at hFail
        split at hFail
        · cases hFail
          rfl
        · split at hFail <;> cases hFail
      subst hSame
      obtain ⟨hLimit, hLast⟩ := ih hWithin hFrame (middle.read_cases next.missing_pos)
      refine ⟨hLimit, ?_⟩
      rw [hRead.1, ← hLast, hRead.2]
  | case7 reading feed error middle hBytes hLess found hFail =>
      unfold FrameReading.fail at hFail
      split at hFail
      · cases hFail
      · split at hFail <;> cases hFail

/-- The frame that is expected is read, in whatever pieces it arrives. -/
theorem finishFrame_of_expects {limit : Nat} {reading : FrameReading} {feed : Feed}
    {payload unread tail : Bytes} (hExpects : reading.Expects payload unread)
    (hLimit : payload.length ≤ limit) (hHeader : payload.length < byteRange headerWidth)
    (hFeed : feed.chunks.flatten = unread ++ tail) :
    ∃ rest, feed.finishFrame limit reading = (some (.ok payload), rest) ∧
      rest.chunks.flatten = tail := by
  have hRead := feed.read_cases reading.missing_pos
  have hSome : feed.chunks.flatten ≠ [] := by
    rw [hFeed]
    exact fun hNil => hExpects.ne_nil (List.append_eq_nil_iff.1 hNil).1
  fun_induction finishFrame limit reading feed generalizing unread with
  | case1 reading feed rest hBytes | case2 reading feed rest hBytes =>
      rw [hBytes] at hRead
      exact absurd hRead.1 hSome
  | case6 reading feed error rest hBytes | case7 reading feed error rest hBytes
  | case8 reading feed error rest hBytes =>
      rw [hBytes] at hRead
      exact absurd hRead.1 hSome
  | case3 reading feed bytes middle hBytes hLess next hAdd ih =>
      rw [hBytes] at hRead
      obtain ⟨-, hMissing, hFlatten⟩ := hRead
      obtain ⟨left, rfl, hMiddle⟩ := hExpects.exists_rest hMissing (hFlatten.symm.trans hFeed)
      rcases hExpects.add hMissing hLimit hHeader with ⟨found, hFound, hNext⟩ | ⟨hFound, -⟩
      · cases hAdd.symm.trans hFound
        exact ih hNext hMiddle (middle.read_cases next.missing_pos)
          (by rw [hMiddle]; exact fun hNil => hNext.ne_nil (List.append_eq_nil_iff.1 hNil).1)
      · cases hAdd.symm.trans hFound
  | case4 reading feed bytes middle hBytes hLess found hAdd =>
      rw [hBytes] at hRead
      obtain ⟨-, hMissing, hFlatten⟩ := hRead
      obtain ⟨left, rfl, hMiddle⟩ := hExpects.exists_rest hMissing (hFlatten.symm.trans hFeed)
      rcases hExpects.add hMissing hLimit hHeader with ⟨next, hFound, -⟩ | ⟨hFound, rfl⟩
      · cases hAdd.symm.trans hFound
      · cases hAdd.symm.trans hFound
        exact ⟨middle, rfl, hMiddle⟩
  | case5 reading feed bytes middle hBytes hLess error hAdd =>
      rw [hBytes] at hRead
      obtain ⟨-, hMissing, hFlatten⟩ := hRead
      obtain ⟨left, rfl, -⟩ := hExpects.exists_rest hMissing (hFlatten.symm.trans hFeed)
      rcases hExpects.add hMissing hLimit hHeader with ⟨next, hFound, -⟩ | ⟨hFound, -⟩ <;>
        cases hAdd.symm.trans hFound

/-- The first frame on a feed, and the others. -/
theorem frames_eq (limit : Nat) (feed : Feed) :
    feed.frames limit = match feed.readFrame limit with
      | (none, _) => []
      | (some (.error .closed), _) => []
      | (some (.error error), _) => [.error error]
      | (some (.ok payload), rest) => .ok payload :: rest.frames limit := by
  rw [frames]
  split <;> simp_all

/-- A frame is read exactly if the stream begins with it, and what follows it stays. -/
theorem readFrame_eq_ok_iff {limit : Nat} (hLimit : limit < byteRange headerWidth) (feed : Feed)
    (payload tail : Bytes) :
    (∃ rest, feed.readFrame limit = (some (.ok payload), rest) ∧ rest.chunks.flatten = tail) ↔
      payload.length ≤ limit ∧ feed.chunks.flatten = frame payload ++ tail := by
  constructor
  · rintro ⟨rest, hFrame, rfl⟩
    obtain ⟨hLength, hFeed⟩ := @flatten_of_finishFrame limit .start feed rest payload trivial hFrame
    exact ⟨(of_le_longestPayload hLength).1, hFeed⟩
  · rintro ⟨hLength, hFeed⟩
    exact finishFrame_of_expects (FrameReading.expects_start payload) hLength
      (Nat.lt_of_le_of_lt hLength hLimit) hFeed

end Feed

end ConfigExchange
