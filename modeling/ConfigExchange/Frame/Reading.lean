import ConfigExchange.Frame

/-! Reading frames, in as many reads as it takes. -/
namespace ConfigExchange

/-- How far the reading of a frame has come. -/
inductive FrameReading where
  | header (got : Bytes) (short : got.length < headerWidth)
  /-- Of the payload, `missing` bytes are still to come. The pieces are those read so far, the last
  one in front. -/
  | payload (missing : Nat) (pieces : List Bytes) (more : 0 < missing)
  deriving DecidableEq

/-- What a read made of a frame. -/
inductive FrameProgress where
  | going (reading : FrameReading)
  | complete (payload : Bytes)
  | failed (error : FrameError)

namespace FrameReading

/-- Nothing read yet. -/
def start : FrameReading := .header [] (by decide)

/-- How many bytes are missing to the end of the header or of the payload. -/
def missing : FrameReading → Nat
  | header got _ => headerWidth - got.length
  | payload missing _ _ => missing

theorem missing_pos (reading : FrameReading) : 0 < reading.missing := by
  cases reading <;> simp only [missing] <;> omega

/-- Takes up bytes that were read, of which there are no more than were missing. -/
def add (limit : Nat) : FrameReading → Bytes → FrameProgress
  | header got _, bytes =>
    let all := got ++ bytes
    if short : all.length < headerWidth then .going (.header all short)
    else
      let length := ofBigEndian all
      if limit < length then .failed (.tooLarge length limit)
      else if more : 0 < length then .going (.payload length [] more)
      else .complete []
  | payload missing pieces _, bytes =>
    let all := bytes :: pieces
    if more : 0 < missing - bytes.length then .going (.payload (missing - bytes.length) all more)
    else .complete all.reverse.flatten

/-- The error of a stream that ends here. -/
def endError : FrameReading → FrameError
  | header _ _ => .closed
  | payload _ _ _ => .io .earlyEof

/-- Takes up a failure. An interrupted read is tried again, and a stream that is said to have ended
counts as closed before a header. -/
def fail (reading : FrameReading) (error : IoError) : FrameProgress :=
  if error.kind = .interrupted then .going reading
  else
    match reading with
    | header _ _ => .failed (if error.kind = .unexpectedEof then .closed else .io error)
    | payload _ _ _ => .failed (.io error)

/-- Takes up what a read for the missing bytes answered. -/
def resume (limit : Nat) (reading : FrameReading) : ReadAnswer → FrameProgress
  | .data bytes => reading.add limit bytes
  | .ended => .failed reading.endError
  | .failed error => reading.fail error
  | .pending => .going reading

end FrameReading

namespace Feed

/-- Reads on to the end of a frame. Nothing comes of it if the feed falls silent. -/
def finishFrame (limit : Nat) (reading : FrameReading) (feed : Feed) :
    Option (Except FrameError Bytes) × Feed :=
  match hRead : feed.read reading.missing with
  | (.pending, rest) => (none, rest)
  | (.ended, rest) => (some (.error reading.endError), rest)
  | (.data bytes, rest) =>
    have := weight_read_lt hRead reading.missing_pos (by simp) (by simp)
    match reading.add limit bytes with
    | .going next => finishFrame limit next rest
    | .complete payload => (some (.ok payload), rest)
    | .failed error => (some (.error error), rest)
  | (.failed error, rest) =>
    have := weight_read_lt hRead reading.missing_pos (by simp) (by simp)
    match reading.fail error with
    | .going next => finishFrame limit next rest
    | .complete payload => (some (.ok payload), rest)
    | .failed error => (some (.error error), rest)
termination_by feed.weight

/-- Reads one frame with a payload of at most `limit` bytes. -/
def readFrame (limit : Nat) (feed : Feed) : Option (Except FrameError Bytes) × Feed :=
  feed.finishFrame limit .start

theorem weight_finishFrame_lt {limit : Nat} {reading : FrameReading} {feed rest : Feed}
    {payload : Bytes} (h : feed.finishFrame limit reading = (some (.ok payload), rest)) :
    rest.weight < feed.weight := by
  fun_induction finishFrame limit reading feed with
  | case1 => simp at h
  | case2 => simp at h
  | case3 reading feed bytes middle hRead hLess next hAdd ih => exact Nat.lt_trans (ih h) hLess
  | case4 reading feed bytes middle hRead hLess payload hAdd =>
    simp only [Prod.mk.injEq] at h
    exact h.2 ▸ hLess
  | case5 => simp at h
  | case6 reading feed error middle hRead hLess next hFail ih => exact Nat.lt_trans (ih h) hLess
  | case7 reading feed error middle hRead hLess payload hFail =>
    simp only [Prod.mk.injEq] at h
    exact h.2 ▸ hLess
  | case8 => simp at h

/-- Reads frames until the stream closes between two of them. Any other error is the last item. -/
def frames (limit : Nat) (feed : Feed) : List (Except FrameError Bytes) :=
  match hFrame : feed.readFrame limit with
  | (none, _) => []
  | (some (.error .closed), _) => []
  | (some (.error error), _) => [.error error]
  | (some (.ok payload), rest) =>
    have : rest.weight < feed.weight := weight_finishFrame_lt hFrame
    .ok payload :: frames limit rest
termination_by feed.weight

/-- The answers of reading a frame several times, as far as they come. -/
def readFrames (limit : Nat) : (count : Nat) → Feed → List (Except FrameError Bytes)
  | 0, _ => []
  | count + 1, feed =>
    match feed.readFrame limit with
    | (none, _) => []
    | (some answer, rest) => answer :: readFrames limit count rest

end Feed

end ConfigExchange
