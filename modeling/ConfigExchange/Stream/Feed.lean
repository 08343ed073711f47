import ConfigExchange.Bytes
import ConfigExchange.Stream.IoError

/-! A stream of received bytes that is laid down: the chunks in which it arrives, and its end. -/
namespace ConfigExchange

/-- What a read call answers. -/
inductive ReadAnswer where
  | data (bytes : Bytes)
  /-- The stream has ended. -/
  | ended
  | failed (error : IoError)
  /-- Nothing has arrived yet. -/
  | pending

/-- What follows the last chunk. -/
inductive FeedEnd where
  | ended
  /-- Nothing ever arrives, and the stream does not end. -/
  | silent
  /-- One read fails; then the stream has ended. -/
  | fails (kind : IoKind)
  deriving DecidableEq

/-- Chunks that arrive one by one, and what follows them. -/
structure Feed where
  chunks : List Bytes
  ending : FeedEnd
  deriving DecidableEq

namespace Feed

/-- A read of at most `n` bytes from chunks. It does not go beyond the chunk it starts in, and takes
no notice of empty ones. -/
def readChunks (ending : FeedEnd) (n : Nat) : List Bytes → ReadAnswer × Feed
  | [] =>
    match ending with
    | .ended => (.ended, ⟨[], .ended⟩)
    | .silent => (.pending, ⟨[], .silent⟩)
    | .fails kind => (.failed (.injected kind), ⟨[], .ended⟩)
  | [] :: rest => readChunks ending n rest
  | (byte :: bytes) :: rest =>
    (.data ((byte :: bytes).take n), ⟨(byte :: bytes).drop n :: rest, ending⟩)

/-- A read of at most `n` bytes, and the feed after it. -/
def read (feed : Feed) (n : Nat) : ReadAnswer × Feed := readChunks feed.ending n feed.chunks

/-- What is left to happen on a feed: every byte, and the failure if one is due. -/
def weight (feed : Feed) : Nat :=
  feed.chunks.flatten.length + match feed.ending with
    | .fails _ => 1
    | _ => 0

theorem weight_readChunks_lt {ending : FeedEnd} {n : Nat} {chunks : List Bytes}
    {answer : ReadAnswer} {rest : Feed} (hRead : readChunks ending n chunks = (answer, rest))
    (hn : 0 < n) (hMore : answer ≠ .ended) (hNow : answer ≠ .pending) :
    rest.weight < (Feed.mk chunks ending).weight := by
  induction chunks with
  | nil =>
    cases ending <;> simp_all [readChunks, weight, Prod.ext_iff]
    obtain ⟨-, rfl⟩ := hRead
    simp
  | cons chunk chunks ih =>
    cases chunk with
    | nil => simpa [weight] using ih (by simpa [readChunks] using hRead)
    | cons byte bytes =>
      simp only [readChunks, Prod.mk.injEq] at hRead
      obtain ⟨-, rfl⟩ := hRead
      simp only [weight, List.flatten_cons, List.length_append, List.length_drop, List.length_cons]
      omega

/-- A read that brings something leaves less to happen. -/
theorem weight_read_lt {feed rest : Feed} {n : Nat} {answer : ReadAnswer}
    (hRead : feed.read n = (answer, rest)) (hn : 0 < n) (hMore : answer ≠ .ended)
    (hNow : answer ≠ .pending) : rest.weight < feed.weight :=
  weight_readChunks_lt hRead hn hMore hNow

end Feed

end ConfigExchange
