import ConfigExchange.Exchange.Handshake
import ConfigExchange.Proofs.Frame.Reading
import ConfigExchange.Proofs.Message.Canonical
import ConfigExchange.Proofs.Serving.Run

/-! One side of a handshake on a stream that is laid down. It reads one frame, in whatever pieces
that arrives, and agrees on a version exactly if the frame says what is waited for; and on a socket
that takes everything a message is sent as a whole. -/
namespace ConfigExchange

namespace Version

theorem ordinal_pos (version : Version) : 1 ≤ version.ordinal := by cases version <;> decide

/-- Two sides use the lower of their versions, and a peer without a version none. -/
theorem negotiate_eq_ok_iff (own version : Version) (peer : UInt16) :
    own.negotiate peer = .ok version ↔ 1 ≤ peer ∧ version.ordinal = min own.ordinal peer := by
  unfold negotiate
  split
  · next hLe =>
    rw [show min own.ordinal peer = own.ordinal from if_pos hLe]
    constructor
    · rintro ⟨⟩
      exact ⟨UInt16.le_trans own.ordinal_pos hLe, rfl⟩
    · rintro ⟨-, hSame⟩
      have hVersion := ofOrdinal?_ordinal version
      rw [hSame, ofOrdinal?_ordinal] at hVersion
      exact congrArg _ (Option.some_inj.1 hVersion)
  · next hLess =>
    rw [show min own.ordinal peer = peer from if_neg hLess, Message.ofOrdinal_eq_ok_iff]
    constructor
    · rintro rfl
      exact ⟨version.ordinal_pos, rfl⟩
    · exact fun ⟨_, hSame⟩ => hSame.symm

end Version

namespace Handshake

/-! ### The messages of a handshake -/

/-- The message that a side waits for. -/
def awaited : Side → UInt16 → Message
  | .dialer => .versionResponse
  | .acceptor => .versionRequest

/-- The bytes of a message of the handshake: a frame, in the version that every build reads. -/
def wire (message : Message) : Bytes :=
  match message.encode .oldest with
  | .ok payload => frame payload
  | .error _ => []

/-- The payload of the message that a side waits for. -/
def payload (side : Side) (ordinal : UInt16) : Bytes :=
  bigEndian 2 Version.oldest.ordinal.toNat ++ (awaited side ordinal).kind.code ::
    bigEndian 2 ordinal.toNat

theorem encode_awaited (side : Side) (ordinal : UInt16) :
    (awaited side ordinal).encode .oldest = .ok (payload side ordinal) := by
  have hWritten : Part.Written .oldest [.number 2 ordinal.toNat] (bigEndian 2 ordinal.toNat) := by
    have hAll : Part.Written .oldest _ _ := Part.Written.nil.number 2 ordinal.toNat
    rwa [List.append_nil] at hAll
  cases side <;> exact Message.encode_of_written hWritten

theorem wire_awaited (side : Side) (ordinal : UInt16) :
    wire (awaited side ordinal) = frame (payload side ordinal) := by
  rw [wire, encode_awaited]

theorem length_payload (side : Side) (ordinal : UInt16) : (payload side ordinal).length = 5 := by
  simp [payload]

theorem length_wire (side : Side) (ordinal : UInt16) :
    (wire (awaited side ordinal)).length = 9 := by
  rw [wire_awaited, frame, List.length_append, length_payload]
  simp [frameHeader, headerWidth]

/-- What is sent is the message as a whole. -/
theorem left_start (side : Side) (ordinal : UInt16) :
    (FrameSending.start (payload side ordinal)).left = wire (awaited side ordinal) :=
  (wire_awaited side ordinal).symm

/-- The dialer starts with its request. -/
theorem start_dialer (now : Micros) (own : Version) (inlet : Inlet) (outlet : Outlet) :
    start now .dialer own inlet outlet =
      ⟨.dialer, own, inlet, outlet, .sending (.start (payload .acceptor own.ordinal)) none⟩ := by
  have hEncode := encode_awaited .acceptor own.ordinal
  simp only [awaited] at hEncode
  simp only [start, send, hEncode]

/-- What a side takes for the message it waits for is that message, and written in one way only. -/
theorem decode_eq_awaited_iff (side : Side) (ordinal : UInt16) (bytes : Bytes) :
    Message.decode .oldest bytes = .ok (awaited side ordinal) ↔ bytes = payload side ordinal := by
  rw [Message.decode_eq_run, Message.parses_message.run_whole_iff]
  constructor
  · intro hForm
    obtain ⟨@⟨kind, body, _, hBody⟩⟩ := hForm
    cases side <;> cases hBody <;> rfl
  · rintro rfl
    cases side <;> exact .mk (.mk (by constructor))

/-- The bytes begin with the message that a side waits for, which settles the version. -/
def Settles (side : Side) (own version : Version) (bytes rest : Bytes) : Prop :=
  ∃ ordinal, 1 ≤ ordinal ∧ version.ordinal = min own.ordinal ordinal ∧
    bytes = wire (awaited side ordinal) ++ rest

theorem Settles.unique {side : Side} {own version other : Version} {bytes rest left : Bytes}
    (hSettles : Settles side own version bytes rest) (hOther : Settles side own other bytes left) :
    version = other ∧ rest = left := by
  obtain ⟨ordinal, -, hVersion, rfl⟩ := hSettles
  obtain ⟨found, -, hFound, hSame⟩ := hOther
  obtain ⟨hWire, hRest⟩ := List.append_inj hSame (by rw [length_wire, length_wire])
  rw [wire_awaited, wire_awaited, frame, frame, length_payload, length_payload,
    List.append_cancel_left_eq] at hWire
  have hAwaited := (decode_eq_awaited_iff side found (payload side ordinal)).2 hWire
  rw [(decode_eq_awaited_iff side ordinal _).2 rfl] at hAwaited
  have hOrdinal : ordinal = found := by cases side <;> simpa [awaited] using hAwaited
  refine ⟨Option.some_inj.1 ?_, hRest⟩
  rw [← Version.ofOrdinal?_ordinal version, ← Version.ofOrdinal?_ordinal other, hVersion, hFound,
    hOrdinal]

/-- No more than the message is taken from the stream. -/
theorem Settles.eq_drop {side : Side} {own version : Version} {bytes rest : Bytes}
    (hSettles : Settles side own version bytes rest) : rest = bytes.drop 9 := by
  obtain ⟨ordinal, -, -, rfl⟩ := hSettles
  rw [← length_wire side ordinal, List.drop_left]

/-- The stage of a side that has agreed on a version. The acceptor still has to name it. -/
def settled : Side → Version → HandshakeStage
  | .dialer, version => .finished (.ok version)
  | .acceptor, version => .sending (.start (payload .dialer version.ordinal)) (some version)

theorem receive_payload {side : Side} {own version : Version} {ordinal : UInt16}
    (hNegotiate : own.negotiate ordinal = .ok version) :
    receive side own (payload side ordinal) = settled side version := by
  have hDecode := (decode_eq_awaited_iff side ordinal _).2 rfl
  have hEncode := encode_awaited .dialer version.ordinal
  cases side
  · simp only [receive, hDecode, awaited, hNegotiate]
    rfl
  · simp only [awaited] at hDecode hEncode
    simp only [receive, hDecode, hNegotiate, send, hEncode, settled]

theorem receive_other {side : Side} {own : Version} {bytes : Bytes}
    (hOther : ∀ ordinal version,
      bytes = payload side ordinal → own.negotiate ordinal ≠ .ok version) :
    ∃ error, receive side own bytes = .finished (.error error) := by
  simp only [← decode_eq_awaited_iff] at hOther
  unfold receive
  cases hDecode : Message.decode .oldest bytes with
  | error error => cases side <;> exact ⟨_, rfl⟩
  | ok message =>
      rw [hDecode] at hOther
      cases side
      · cases message <;> try exact ⟨_, rfl⟩
        next ordinal =>
          cases hNegotiate : own.negotiate ordinal with
          | error error => exact ⟨.decode error, by simp [hNegotiate, Except.mapError]⟩
          | ok version => exact absurd hNegotiate (hOther ordinal version rfl)
      · cases message <;> try exact ⟨_, rfl⟩
        next ordinal =>
          cases hNegotiate : own.negotiate ordinal with
          | error error => exact ⟨.decode error, by simp [hNegotiate]⟩
          | ok version => exact absurd hNegotiate (hOther ordinal version rfl)

/-! ### Runs of one side -/

/-- A run comes from one state to the other, in at most `bound` steps. -/
def Leads (bound : Nat) (before after : Handshake × Micros) : Prop :=
  ∃ steps ≤ bound, ∀ more, run (steps + more) before.2 before.1 = run more after.2 after.1

theorem Leads.trans {first second : Nat} {before middle after : Handshake × Micros}
    (hFirst : Leads first before middle) (hSecond : Leads second middle after) :
    Leads (first + second) before after := by
  obtain ⟨steps, hSteps, hRun⟩ := hFirst
  obtain ⟨others, hOthers, hLater⟩ := hSecond
  exact ⟨steps + others, Nat.add_le_add hSteps hOthers,
    fun more => by rw [Nat.add_assoc, hRun, hLater]⟩

theorem Leads.mono {bound other : Nat} {before after : Handshake × Micros}
    (hLeads : Leads bound before after) (hBound : bound ≤ other) : Leads other before after := by
  obtain ⟨steps, hSteps, hRun⟩ := hLeads
  exact ⟨steps, Nat.le_trans hSteps hBound, hRun⟩

theorem leads_step {now : Micros} {handshake next : Handshake}
    (hStep : handshake.step now [] = some (next, [])) :
    Leads 1 (handshake, now) (next, now) :=
  ⟨1, Nat.le_refl _, fun more => by rw [Nat.add_comm, run, hStep]⟩

/-- Who has nothing to do waits until it is late. -/
theorem leads_wait {now deadline : Micros} {handshake : Handshake}
    (hStep : handshake.step now [] = none) (hDeadline : handshake.deadline? = some deadline)
    (hNow : now < deadline) : Leads 1 (handshake, now) (handshake, deadline) :=
  ⟨1, Nat.le_refl _, fun more => by
    simp only [Nat.add_comm 1 more, run, hStep, hDeadline, if_pos hNow]⟩

/-- Who has finished stays so. -/
theorem run_of_finished {handshake : Handshake} {result : Except ExchangeError Version}
    (hStage : handshake.stage = .finished result) (steps : Nat) (now : Micros) :
    run steps now handshake = (handshake, now) := by
  have hStep : handshake.step now [] = none := by rw [step, hStage]
  have hDeadline : handshake.deadline? = none := by rw [deadline?, hStage]
  cases steps with
  | zero => rfl
  | succ steps => simp only [run, hStep, hDeadline]

theorem run_of_leads {bound steps : Nat} {before after : Handshake × Micros}
    {result : Except ExchangeError Version} (hLeads : Leads bound before after)
    (hStage : after.1.stage = .finished result) (hSteps : bound ≤ steps) :
    run steps before.2 before.1 = after := by
  obtain ⟨taken, hTaken, hRun⟩ := hLeads
  obtain ⟨more, rfl⟩ := Nat.exists_eq_add_of_le (Nat.le_trans hTaken hSteps)
  rw [hRun, run_of_finished hStage]

variable {handshake : Handshake} {now deadline : Micros}

/-- A read that brings something is taken up. -/
theorem step_reading (handshake : Handshake) (now deadline : Micros) {reading : FrameReading}
    {feed rest : Feed} {answer : ReadAnswer} (hRead : feed.read reading.missing = (answer, rest))
    (hNow : answer ≠ .pending) :
    { handshake with inlet := .feed feed, stage := .reading deadline reading }.step now [] =
      some ({ handshake with
        inlet := .feed rest
        stage :=
          match reading.resume maxMessageSize answer with
          | .going next => .reading deadline next
          | .complete payload => receive handshake.side handshake.own payload
          | .failed error => .finished (.error (.frame error)) }, []) := by
  simp only [step, Inlet.read]
  rw [hRead]
  cases answer with
  | pending => exact absurd rfl hNow
  | data | ended | failed => rfl

/-- While nothing arrives, only the time of the other side passes. -/
theorem step_silent (handshake : Handshake) (now deadline : Micros) {reading : FrameReading}
    {feed rest : Feed} (hRead : feed.read reading.missing = (.pending, rest)) :
    { handshake with inlet := .feed feed, stage := .reading deadline reading }.step now [] =
      if deadline ≤ now then
        some ({ handshake with
          inlet := .feed feed
          stage := .finished (.error (.handshakeTimeout patience)) }, [])
      else none := by
  simp only [step, Inlet.read, hRead]

/-- What comes of reading a frame. -/
def Reads (handshake : Handshake) (now deadline : Micros) (feed : Feed) (reading : FrameReading) :
    Option (Except FrameError Bytes) × Feed → Prop
  | (none, _) => ∃ silent : Feed, Leads (feed.weight + 2)
      ({ handshake with inlet := .feed feed, stage := .reading deadline reading }, now)
      ({ handshake with
        inlet := .feed silent
        stage := .finished (.error (.handshakeTimeout patience)) }, deadline)
  | (some (.ok payload), rest) => Leads (feed.weight + 2)
      ({ handshake with inlet := .feed feed, stage := .reading deadline reading }, now)
      ({ handshake with
        inlet := .feed rest
        stage := receive handshake.side handshake.own payload }, now)
  | (some (.error error), rest) => Leads (feed.weight + 2)
      ({ handshake with inlet := .feed feed, stage := .reading deadline reading }, now)
      ({ handshake with inlet := .feed rest, stage := .finished (.error (.frame error)) }, now)

theorem Reads.head {feed rest : Feed} {reading next : FrameReading}
    {answer : Option (Except FrameError Bytes) × Feed}
    (hStep : { handshake with inlet := .feed feed, stage := .reading deadline reading }.step now [] =
      some ({ handshake with inlet := .feed rest, stage := .reading deadline next }, []))
    (hLess : rest.weight < feed.weight) (hReads : Reads handshake now deadline rest next answer) :
    Reads handshake now deadline feed reading answer := by
  have hBound : 1 + (rest.weight + 2) ≤ feed.weight + 2 := by omega
  obtain ⟨_ | error | payload, last⟩ := answer
  · obtain ⟨silent, hLeads⟩ := hReads
    exact ⟨silent, ((leads_step hStep).trans hLeads).mono hBound⟩
  · exact ((leads_step hStep).trans hReads).mono hBound
  · exact ((leads_step hStep).trans hReads).mono hBound

/-- A frame is read to its end, or as far as the feed goes. If that falls silent, the time of the
other side runs out. -/
theorem reads_finishFrame (handshake : Handshake) (hNow : now < deadline) (reading : FrameReading)
    (feed : Feed) :
    Reads handshake now deadline feed reading (feed.finishFrame maxMessageSize reading) := by
  refine Feed.finishFrame_induction
    (motive := fun reading feed => Reads handshake now deadline feed reading) ?_ ?_ ?_ ?_
    reading feed
  · intro reading feed rest hRead
    have hEarly := step_silent handshake now deadline hRead
    have hLate := step_silent handshake deadline deadline hRead
    rw [if_neg (Nat.not_le.2 hNow)] at hEarly
    rw [if_pos (Nat.le_refl _)] at hLate
    exact ⟨feed, ((leads_wait hEarly rfl hNow).trans (leads_step hLate)).mono (by omega)⟩
  · intro reading feed answer rest next hRead hSome hResume hLess hRest
    have hStep := step_reading handshake now deadline hRead hSome
    simp only [hResume] at hStep
    exact hRest.head hStep hLess
  · intro reading feed answer rest payload hRead hSome hResume
    have hStep := step_reading handshake now deadline hRead hSome
    simp only [hResume] at hStep
    exact (leads_step hStep).mono (by omega)
  · intro reading feed answer rest error hRead hSome hResume
    have hStep := step_reading handshake now deadline hRead hSome
    simp only [hResume] at hStep
    exact (leads_step hStep).mono (by omega)

/-- A message is sent to its end on a socket that takes everything. -/
theorem sends (handshake : Handshake) (now : Micros) (agreed : Option Version) {socket : Socket}
    (hAccepting : socket.Accepting) (rest : FrameSending) :
    ∃ last : Socket, last.accepted = socket.accepted ++ rest.left ∧
      Leads (rest.left.length + 1)
        ({ handshake with outlet := .socket socket, stage := .sending rest agreed }, now)
        ({ handshake with outlet := .socket last, stage := sent now agreed }, now) := by
  induction hLength : rest.left.length using Nat.strongRecOn generalizing socket rest with
  | ind length ih =>
      rcases rest.next_cases with ⟨hLeft, hNext⟩ | ⟨bytes, tail, hBytes, hNext, hLeft, hAdvance⟩
      · obtain ⟨last, hFlush, -, hAccepted⟩ := hAccepting.flush
        refine ⟨last, by rw [hAccepted, hLeft, List.append_nil], ?_⟩
        refine (leads_step ?_).mono (Nat.le_add_left 1 length)
        simp only [step, hNext, Outlet.call, Socket.call, hFlush, FrameSending.resume]
      · obtain ⟨taken, later, hWrite, ⟨left, rfl⟩, hTaken, hLater, hAccepted⟩ :=
          hAccepting.write hBytes
        have hRest := hAdvance taken left rfl
        have hShorter : (rest.advance taken.length).left.length < length := by
          have hSome := List.length_pos_of_ne_nil hTaken
          rw [← hLength, hLeft, hRest]
          simp only [List.length_append]
          omega
        obtain ⟨last, hLast, hLeads⟩ := ih _ hShorter hLater (rest.advance taken.length) rfl
        refine ⟨last, by rw [hLast, hAccepted, hRest, hLeft]; simp, ?_⟩
        refine (Leads.trans (leads_step ?_) hLeads).mono (by omega)
        simp only [step, hNext, Outlet.call, Socket.call, hWrite,
          FrameSending.resume_accepted hTaken]

theorem length_payload_le (side : Side) (ordinal : UInt16) :
    (payload side ordinal).length ≤ maxMessageSize := by
  rw [length_payload]
  decide

/-- The reading of a frame from a stream that settles the version. -/
theorem settles_iff {side : Side} {own version : Version} {feed : Feed} {left : Bytes} :
    Settles side own version feed.chunks.flatten left ↔ ∃ ordinal rest,
      own.negotiate ordinal = .ok version ∧
      feed.readFrame maxMessageSize = (some (.ok (payload side ordinal)), rest) ∧
      rest.chunks.flatten = left := by
  have hLimit : maxMessageSize < byteRange headerWidth := by decide
  constructor
  · rintro ⟨ordinal, hPeer, hVersion, hBytes⟩
    rw [wire_awaited] at hBytes
    obtain ⟨rest, hFrame, hRest⟩ := (Feed.readFrame_eq_ok_iff hLimit feed _ left).2
      ⟨length_payload_le side ordinal, hBytes⟩
    exact ⟨ordinal, rest, (own.negotiate_eq_ok_iff version ordinal).2 ⟨hPeer, hVersion⟩, hFrame,
      hRest⟩
  · rintro ⟨ordinal, rest, hNegotiate, hFrame⟩
    obtain ⟨hPeer, hVersion⟩ := (own.negotiate_eq_ok_iff version ordinal).1 hNegotiate
    obtain ⟨-, hBytes⟩ := (Feed.readFrame_eq_ok_iff hLimit feed _ left).1 ⟨rest, hFrame⟩
    exact ⟨ordinal, hPeer, hVersion, by rw [wire_awaited, hBytes]⟩

/-- Once it reads, a side takes the message it waits for from the stream and goes on with the
version that this settles; or it has come to nothing, and then no such message was there. -/
theorem leads_reading (handshake : Handshake) (now : Micros) (feed : Feed) :
    ∃ (rest : Feed) (stage : HandshakeStage) (later : Micros),
      Leads (feed.weight + 2)
        ({ handshake with inlet := .feed feed, stage := .reading (now + patience) .start }, now)
        ({ handshake with inlet := .feed rest, stage }, later) ∧
      ((∃ version, stage = settled handshake.side version ∧
          Settles handshake.side handshake.own version feed.chunks.flatten rest.chunks.flatten) ∨
        (∃ error, stage = .finished (.error error)) ∧
          ∀ version left,
            ¬ Settles handshake.side handshake.own version feed.chunks.flatten left) := by
  have hNow : now < now + patience := Nat.lt_add_of_pos_right (by decide)
  have hReads : Reads handshake now (now + patience) feed .start (feed.readFrame maxMessageSize) :=
    reads_finishFrame handshake hNow .start feed
  simp only [settles_iff]
  rcases hFrame : feed.readFrame maxMessageSize with ⟨_ | error | bytes, rest⟩
  · rw [hFrame] at hReads
    obtain ⟨silent, hLeads⟩ := hReads
    refine ⟨silent, _, _, hLeads, .inr ⟨⟨_, rfl⟩, ?_⟩⟩
    rintro version left ⟨ordinal, other, -, hOther, -⟩
    cases hOther
  · rw [hFrame] at hReads
    refine ⟨rest, _, _, hReads, .inr ⟨⟨_, rfl⟩, ?_⟩⟩
    rintro version left ⟨ordinal, other, -, hOther, -⟩
    cases hOther
  · rw [hFrame] at hReads
    refine ⟨rest, _, _, hReads, ?_⟩
    by_cases hSettled : ∃ ordinal version, bytes = payload handshake.side ordinal ∧
        handshake.own.negotiate ordinal = .ok version
    · obtain ⟨ordinal, version, rfl, hNegotiate⟩ := hSettled
      exact .inl ⟨version, receive_payload hNegotiate, ordinal, rest, hNegotiate, rfl, rfl⟩
    · simp only [not_exists, not_and] at hSettled
      refine .inr ⟨receive_other hSettled, ?_⟩
      rintro version left ⟨ordinal, other, hNegotiate, hOther, -⟩
      cases hOther
      exact hSettled ordinal version rfl hNegotiate

/-! ### What comes of a handshake -/

/-- One side of a handshake on streams that are laid down, after its run. -/
def scripted (side : Side) (own : Version) (feed : Feed) (socket : Socket) : Handshake :=
  (run (maxSteps feed socket) 0 (start 0 side own (.feed feed) (.socket socket))).1

/-- A side ends with a version exactly if the stream begins with the message it waits for, and it
leaves what follows the message. -/
structure Concludes (side : Side) (own : Version) (feed : Feed) (last : Handshake) : Prop where
  ends : ∃ result, last.result? = some result
  ok_iff : ∀ version, last.result? = some (.ok version) ↔
    ∃ left, Settles side own version feed.chunks.flatten left
  takes : ∀ version, last.result? = some (.ok version) →
    ∃ rest, last.inlet = .feed rest ∧ rest.chunks.flatten = feed.chunks.flatten.drop 9

variable {side : Side} {own version : Version} {feed : Feed} {last : Handshake}

theorem concludes_of_settles {rest : Feed} (hResult : last.result? = some (.ok version))
    (hInlet : last.inlet = .feed rest)
    (hSettles : Settles side own version feed.chunks.flatten rest.chunks.flatten) :
    Concludes side own feed last where
  ends := ⟨_, hResult⟩
  ok_iff := by
    intro other
    rw [hResult]
    constructor
    · rintro ⟨⟩
      exact ⟨_, hSettles⟩
    · rintro ⟨left, hOther⟩
      rw [(hSettles.unique hOther).1]
  takes := fun _ _ => ⟨rest, hInlet, hSettles.eq_drop⟩

theorem concludes_of_error {error : ExchangeError} (hResult : last.result? = some (.error error))
    (hNone : ∀ version left, ¬ Settles side own version feed.chunks.flatten left) :
    Concludes side own feed last where
  ends := ⟨_, hResult⟩
  ok_iff := by
    intro version
    rw [hResult]
    constructor
    · rintro ⟨⟩
    · rintro ⟨left, hSettles⟩
      exact absurd hSettles (hNone version left)
  takes := by
    intro version hOk
    rw [hResult] at hOk
    cases hOk

/-- The acceptor names the version it agreed on, and writes nothing if it agreed on none. -/
def Answers (socket : Socket) (last : Handshake) : Prop :=
  match last.result? with
  | some (.ok version) => ∃ later, last.outlet = .socket later ∧
    later.accepted = socket.accepted ++ wire (.versionResponse version.ordinal)
  | _ => last.outlet = .socket socket

theorem acceptor_concludes (own : Version) (feed : Feed) {socket : Socket}
    (hAccepting : socket.Accepting) :
    Concludes .acceptor own feed (scripted .acceptor own feed socket) ∧
      Answers socket (scripted .acceptor own feed socket) := by
  have hSteps : feed.weight + 2 + (9 + 1) ≤ maxSteps feed socket := by
    simp only [maxSteps, maxMessageSize]
    omega
  obtain ⟨rest, stage, later, hLeads, ⟨version, rfl, hSettles⟩ | ⟨⟨error, rfl⟩, hNone⟩⟩ :=
    leads_reading (start 0 .acceptor own (.feed feed) (.socket socket)) 0 feed
  · obtain ⟨told, hWritten, hSends⟩ := sends
      ⟨.acceptor, own, .feed rest, .socket socket, settled .acceptor version⟩ later (some version)
      hAccepting (.start (payload .dialer version.ordinal))
    rw [left_start, length_wire] at hSends
    have hLast : scripted .acceptor own feed socket =
        ⟨.acceptor, own, .feed rest, .socket told, .finished (.ok version)⟩ := by
      rw [scripted]
      exact congrArg Prod.fst (run_of_leads (hLeads.trans hSends) rfl hSteps)
    rw [hLast]
    exact ⟨concludes_of_settles rfl rfl hSettles, told, rfl, by rw [hWritten, left_start]; rfl⟩
  · have hLast : scripted .acceptor own feed socket =
        ⟨.acceptor, own, .feed rest, .socket socket, .finished (.error error)⟩ := by
      rw [scripted]
      exact congrArg Prod.fst (run_of_leads hLeads rfl (by omega))
    rw [hLast]
    exact ⟨concludes_of_error rfl hNone, rfl⟩

/-- Before it reads anything the dialer names its own version, and it writes nothing else. -/
def Asks (own : Version) (feed : Feed) (socket : Socket) (last : Handshake) : Prop :=
  ∃ later : Socket, later.accepted = socket.accepted ++ wire (.versionRequest own.ordinal) ∧
    (∃ steps ≤ maxSteps feed socket,
      run steps 0 (start 0 .dialer own (.feed feed) (.socket socket)) =
        (⟨.dialer, own, .feed feed, .socket later, .reading patience .start⟩, 0)) ∧
    last.outlet = .socket later

theorem dialer_concludes (own : Version) (feed : Feed) {socket : Socket}
    (hAccepting : socket.Accepting) :
    Concludes .dialer own feed (scripted .dialer own feed socket) ∧
      Asks own feed socket (scripted .dialer own feed socket) := by
  have hStart := start_dialer 0 own (.feed feed) (.socket socket)
  obtain ⟨asked, hWritten, hSends⟩ := sends
    ⟨.dialer, own, .feed feed, .socket socket,
      .sending (.start (payload .acceptor own.ordinal)) none⟩ 0 none hAccepting
      (.start (payload .acceptor own.ordinal))
  rw [left_start, length_wire] at hSends
  obtain ⟨rest, stage, later, hLeads, hStage⟩ := leads_reading
    ⟨.dialer, own, .feed feed, .socket asked, .reading patience .start⟩ 0 feed
  have hSteps : 9 + 1 + (feed.weight + 2) ≤ maxSteps feed socket := by
    simp only [maxSteps, maxMessageSize]
    omega
  have hAsks : ∀ last : Handshake, last.outlet = .socket asked → Asks own feed socket last := by
    intro last hOutlet
    obtain ⟨steps, hTaken, hRun⟩ := hSends
    refine ⟨asked, ?_, ⟨steps, by omega, ?_⟩, hOutlet⟩
    · rw [hWritten, left_start]
      rfl
    · rw [hStart]
      exact hRun 0
  have hLast (result : Except ExchangeError Version) (hResult : stage = .finished result) :
      scripted .dialer own feed socket = ⟨.dialer, own, .feed rest, .socket asked, stage⟩ := by
    rw [scripted, hStart]
    exact congrArg Prod.fst (run_of_leads (hSends.trans hLeads) hResult hSteps)
  obtain ⟨version, rfl, hSettles⟩ | ⟨⟨error, rfl⟩, hNone⟩ := hStage
  · rw [hLast _ rfl]
    exact ⟨concludes_of_settles rfl rfl hSettles, hAsks _ rfl⟩
  · rw [hLast _ rfl]
    exact ⟨concludes_of_error rfl hNone, hAsks _ rfl⟩

end Handshake

end ConfigExchange
