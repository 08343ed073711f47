import ConfigExchange.Proofs.Cluster.Errand
import ConfigExchange.Proofs.Frame.Reading

/-! How a frame passes over a channel. Whoever is at an end of the channel gives a frame, as an
errand, and then takes one, in as many reads as it comes in. Of the two at the ends one gives while
the other takes, and neither gets ahead. -/
namespace ConfigExchange

/-! ### The ends of a channel -/

/-- One end of an open channel: the bytes that were sent there and not yet read at the other end,
and those that were sent from the other end and not yet read there. -/
structure ChannelEnd where
  place : Nat
  side : Side
  capacity : Nat
  sent : Bytes
  received : Bytes

namespace ChannelEnd

/-- The channel with such an end. -/
def channel (stub : ChannelEnd) : Channel :=
  match stub.side with
  | .dialer => ⟨⟨stub.capacity, stub.sent, false⟩, ⟨stub.capacity, stub.received, false⟩⟩
  | .acceptor => ⟨⟨stub.capacity, stub.received, false⟩, ⟨stub.capacity, stub.sent, false⟩⟩

/-- The end is where it says. -/
def At (stub : ChannelEnd) (channels : Channels) : Prop := channels[stub.place]? = some stub.channel

/-- Puts the channel with such an end in its place. -/
def putIn (stub : ChannelEnd) (channels : Channels) : Channels :=
  channels.set stub.place stub.channel

variable {stub : ChannelEnd} {channels : Channels}

theorem putIn_self (hAt : stub.At channels) : stub.putIn channels = channels := by
  obtain ⟨hIndex, hHere⟩ := List.getElem?_eq_some_iff.1 hAt
  rw [putIn, ← hHere, List.set_getElem_self hIndex]

theorem at_putIn {other : ChannelEnd} (hAt : stub.At channels) (hPlace : other.place = stub.place) :
    other.At (other.putIn channels) := by
  obtain ⟨hIndex, -⟩ := List.getElem?_eq_some_iff.1 hAt
  exact List.getElem?_set_self (hPlace ▸ hIndex)

theorem channel_read (stub : ChannelEnd) (n : Nat) :
    stub.channel.read stub.side n =
      if stub.received = [] then (.pending, stub.channel)
      else (.data (stub.received.take n), { stub with received := stub.received.drop n }.channel) := by
  obtain ⟨place, side, capacity, sent, received⟩ := stub
  by_cases hNone : received = [] <;> cases side <;>
    simp [channel, Channel.read, Channel.incoming, Channel.setIncoming, Pipe.read, hNone]

theorem channel_write (stub : ChannelEnd) (bytes : Bytes) :
    stub.channel.call stub.side (.write bytes) =
      if stub.capacity ≤ stub.sent.length then (.pending, stub.channel)
      else
        let front := bytes.take (stub.capacity - stub.sent.length)
        (.accepted front.length, { stub with sent := stub.sent ++ front }.channel) := by
  obtain ⟨place, side, capacity, sent, received⟩ := stub
  by_cases hFull : capacity ≤ sent.length <;> cases side <;>
    simp [channel, Channel.call, Channel.outgoing, Channel.setOutgoing, Pipe.write, hFull]

theorem read_eq (hAt : stub.At channels) (n : Nat) :
    (Inlet.channel stub.place stub.side).read channels n =
      if stub.received = [] then (.pending, .channel stub.place stub.side, channels)
      else (.data (stub.received.take n), .channel stub.place stub.side,
        { stub with received := stub.received.drop n }.putIn channels) := by
  have hSelf := putIn_self hAt
  simp only [At] at hAt
  simp only [Inlet.read, hAt, channel_read]
  by_cases hNone : stub.received = []
  · simp only [if_pos hNone]
    exact congrArg _ (congrArg _ hSelf)
  · simp only [if_neg hNone]
    rfl

theorem write_eq (hAt : stub.At channels) (bytes : Bytes) :
    (Outlet.channel stub.place stub.side).call channels (.write bytes) =
      if stub.capacity ≤ stub.sent.length then (.pending, .channel stub.place stub.side, channels)
      else
        let front := bytes.take (stub.capacity - stub.sent.length)
        (.accepted front.length, .channel stub.place stub.side,
          { stub with sent := stub.sent ++ front }.putIn channels) := by
  have hSelf := putIn_self hAt
  simp only [At] at hAt
  simp only [Outlet.call, hAt, channel_write]
  by_cases hFull : stub.capacity ≤ stub.sent.length
  · simp only [if_pos hFull]
    exact congrArg _ (congrArg _ hSelf)
  · simp only [if_neg hFull]
    rfl

theorem flush_eq (hAt : stub.At channels) :
    (Outlet.channel stub.place stub.side).call channels .flush =
      (.done, .channel stub.place stub.side, channels) := by
  have hSelf := putIn_self hAt
  simp only [At] at hAt
  simp only [Outlet.call, hAt, Channel.call]
  exact congrArg _ (congrArg _ hSelf)

theorem obliging (hAt : stub.At channels) :
    (Outlet.channel stub.place stub.side).Obliging channels where
  write := by
    intro bytes hBytes
    rw [write_eq hAt]
    by_cases hFull : stub.capacity ≤ stub.sent.length
    · rw [if_pos hFull]
      exact .inl rfl
    · rw [if_neg hFull]
      refine .inr ⟨bytes.take (stub.capacity - stub.sent.length), _, _, List.take_prefix _ _,
        ?_, rfl⟩
      have hRoom : stub.capacity - stub.sent.length ≠ 0 := by omega
      simp [hBytes, hRoom]
  flush := ⟨_, _, flush_eq hAt⟩

/-- It keeps waiting only whom there is no room for. -/
theorem full_of_waits (hAt : stub.At channels) {connection : Connection}
    (hOutlet : connection.outlet = .channel stub.place stub.side)
    (hWaits : connection.Waits channels) : stub.capacity ≤ stub.sent.length := by
  obtain ⟨bytes, -, hPending⟩ := hWaits
  rw [hOutlet, write_eq hAt] at hPending
  by_cases hFull : stub.capacity ≤ stub.sent.length
  · exact hFull
  · rw [if_neg hFull] at hPending
    cases hPending

end ChannelEnd

/-! ### Duties -/

/-- What somebody at an end of a channel has to do: to give a frame and then take one, or to go on
with the one that is being taken. -/
inductive Duty where
  | give (errand : Errand)
  | take (reading : FrameReading)

namespace Duty

/-- What is still to be written. -/
def due (connection : Connection) : Duty → Bytes
  | give errand => errand.due connection
  | take _ => []

/-- How many steps it can take at most until everything is given. -/
def cost (depth : Nat) (connection : Connection) : Duty → Nat
  | give errand => errand.cost depth connection + 1
  | take _ => 0

/-- Nothing keeps the frame from being given. -/
def Succeeds (connection : Connection) : Duty → Prop
  | give errand => errand.outcome connection = .ok ()
  | take _ => True

/-- Nothing was taken yet. -/
def Fresh : Duty → Prop
  | give _ => True
  | take reading => reading = .start

/-- What is still to be read of the frame of a payload. -/
def Expects (payload : Bytes) : Duty → Bytes → Prop
  | give _, unread => unread = frame payload
  | take reading, unread => reading.Expects payload unread

variable {depth : Nat} {connection giving taking : Connection} {duty next giver taker : Duty}
  {errand : Errand} {sent sentNext payload : Bytes}

/-- What one step of giving makes of a duty. -/
structure Gives (depth : Nat) (connection : Connection) (sent : Bytes) (errand : Errand)
    (sentNext : Bytes) (next : Duty) : Prop where
  fresh : next.Fresh
  succeeds : next.Succeeds connection
  due : sentNext ++ next.due connection = sent ++ errand.due connection
  cost : next.cost depth connection < (give errand).cost depth connection

theorem Gives.turns (depth : Nat) (connection : Connection) (sent : Bytes) :
    Gives depth connection sent (.report 0 (.ok ())) sent (take .start) :=
  ⟨rfl, trivial, rfl, Nat.succ_pos _⟩

/-- What a step of an errand writes is on the way. -/
theorem Gives.of_step {stub : ChannelEnd} {channels later : Channels} {next : Connection}
    {rest : Errand} (hStep : Errand.Step depth connection channels errand next rest later)
    (hOutlet : connection.outlet = .channel stub.place stub.side) (hAt : stub.At channels)
    (hSucceeds : errand.outcome connection = .ok ()) :
    next = connection ∧ ∃ sentNext, later = { stub with sent := sentNext }.putIn channels ∧
      Gives depth connection stub.sent errand sentNext (give rest) := by
  have hCost := Nat.succ_lt_succ hStep.cost_lt
  obtain ⟨hOutcome, ⟨rfl, rfl, hDue⟩ | ⟨bytes, taken, outlet, hCall, hTaken, hSome, rfl, hDue⟩ |
    ⟨outlet, hCall, rfl, hDue⟩⟩ := hStep.due_eq
  · exact ⟨rfl, stub.sent, (ChannelEnd.putIn_self hAt).symm, trivial, hOutcome.trans hSucceeds,
      congrArg _ hDue, hCost⟩
  · rw [hOutlet, ChannelEnd.write_eq hAt] at hCall
    split at hCall
    · cases hCall
    · simp only [Prod.mk.injEq, CallAnswer.accepted.injEq] at hCall
      obtain ⟨hLength, rfl, rfl⟩ := hCall
      -- The channel took as much as the errand gave, and both are a front of the same bytes.
      have hSame : bytes.take (stub.capacity - stub.sent.length) = taken :=
        (List.prefix_of_prefix_length_le (List.take_prefix _ _) hTaken
          (Nat.le_of_eq hLength)).eq_of_length hLength
      rw [hSame]
      have hConnection :
          { connection with outlet := .channel stub.place stub.side } = connection := by
        rw [← hOutlet]
      rw [hConnection] at hOutcome hDue hCost ⊢
      exact ⟨rfl, _, rfl, trivial, hOutcome.trans hSucceeds,
        by rw [List.append_assoc]; exact congrArg _ hDue.symm, hCost⟩
  · rw [hOutlet, ChannelEnd.flush_eq hAt] at hCall
    simp only [Prod.mk.injEq, true_and] at hCall
    obtain ⟨rfl, rfl⟩ := hCall
    have hConnection :
        { connection with outlet := .channel stub.place stub.side } = connection := by
      rw [← hOutlet]
    rw [hConnection] at hOutcome hDue hCost ⊢
    exact ⟨rfl, stub.sent, (ChannelEnd.putIn_self hAt).symm, trivial, hOutcome.trans hSucceeds,
      congrArg _ hDue, hCost⟩

/-- Everything was given, and nothing is taken yet. -/
structure Rests (connection : Connection) (duty : Duty) : Prop where
  fresh : duty.Fresh
  succeeds : duty.Succeeds connection
  due : duty.due connection = []

theorem Rests.expects (hRests : duty.Rests connection) (payload : Bytes) :
    duty.Expects payload (frame payload) := by
  cases duty with
  | give errand => rfl
  | take reading =>
      cases hRests.fresh
      exact FrameReading.expects_start payload

theorem Rests.gives (hRests : (give errand).Rests connection)
    (hGives : Gives depth connection [] errand sentNext next) :
    sentNext = [] ∧ next.Rests connection := by
  have hDue := hGives.due.trans (congrArg _ hRests.due)
  rw [List.append_nil, List.append_eq_nil_iff] at hDue
  exact ⟨hDue.1, hGives.fresh, hGives.succeeds, hDue.2⟩

/-- A frame passes from a giver to a taker, and some of it is on the way. -/
structure Passes (payload : Bytes) (giving taking : Connection) (giver taker : Duty)
    (sent : Bytes) :
    Prop where
  fresh : giver.Fresh
  gives : giver.Succeeds giving
  takes : taker.Succeeds taking
  due : taker.due taking = []
  expects : taker.Expects payload (sent ++ giver.due giving)

/-- How many steps giver and taker can make at most until the frame has passed. -/
def passingCost (giverDepth takerDepth : Nat) (giving taking : Connection) (giver taker : Duty)
    (sent : Bytes) : Nat :=
  giver.cost giverDepth giving + taker.cost takerDepth taking + (sent ++ giver.due giving).length

/-- A message that can be sent passes to whoever rests. -/
theorem Rests.passes {message : Encodable} (hRests : taker.Rests taking)
    (hPrepare : giving.prepare message = .ok payload) (steps : Nat) :
    Passes payload giving taking (give (.obtain steps message)) taker [] where
  fresh := trivial
  gives := by simp [Succeeds, Errand.outcome, hPrepare, Except.map]
  takes := hRests.succeeds
  due := hRests.due
  expects := by
    simp only [Duty.due, Errand.due, hPrepare, List.nil_append]
    exact hRests.expects payload

theorem Passes.of_gives (hPasses : Passes payload giving taking (give errand) taker sent)
    (hGives : Gives depth giving sent errand sentNext next) :
    Passes payload giving taking next taker sentNext where
  fresh := hGives.fresh
  gives := hGives.succeeds
  takes := hPasses.takes
  due := hPasses.due
  expects := hGives.due ▸ hPasses.expects

/-- The taker may still have to end the errand before. -/
theorem Passes.of_rests (hPasses : Passes payload giving taking giver (give errand) sent)
    (hGives : Gives depth taking [] errand sentNext next) :
    sentNext = [] ∧ Passes payload giving taking giver next sent := by
  obtain ⟨hSent, hRests⟩ := Rests.gives ⟨trivial, hPasses.takes, hPasses.due⟩ hGives
  refine ⟨hSent, hPasses.fresh, hPasses.gives, hRests.succeeds, hRests.due, ?_⟩
  have hUnread : sent ++ giver.due giving = frame payload := hPasses.expects
  rw [hUnread]
  exact hRests.expects payload

/-- What is read is of the frame that is expected. -/
theorem Passes.of_read {reading : FrameReading}
    (hPasses : Passes payload giving taking giver (take reading) sent)
    (hLimit : payload.length ≤ taking.maxMessageSize)
    (hHeader : payload.length < byteRange headerWidth) :
    (∃ next, reading.add taking.maxMessageSize (sent.take reading.missing) = .going next ∧
        Passes payload giving taking giver (take next) (sent.drop reading.missing)) ∨
      reading.add taking.maxMessageSize (sent.take reading.missing) = .complete payload ∧
        sent.drop reading.missing = [] ∧ giver.due giving = [] := by
  have hExpects : reading.Expects payload
      (sent.take reading.missing ++ (sent.drop reading.missing ++ giver.due giving)) := by
    rw [← List.append_assoc, List.take_append_drop]
    exact hPasses.expects
  rcases hExpects.add (List.length_take_le _ _) hLimit hHeader with
    ⟨next, hAdd, hNext⟩ | ⟨hAdd, hRest⟩
  · exact .inl ⟨next, hAdd, hPasses.fresh, hPasses.gives, trivial, rfl, hNext⟩
  · exact .inr ⟨hAdd, List.append_eq_nil_iff.1 hRest⟩

end Duty

end ConfigExchange
