import ConfigExchange.Proofs.Dialogue.Passing
import ConfigExchange.Proofs.Handshake.Side

/-! Two sides of a handshake over a channel. Whatever room the channel has and in whatever order the
sides go on, each step leaves less to write or to read, and neither is kept waiting for ever. -/
namespace ConfigExchange

namespace Handshake

variable {stub : ChannelEnd} {channels : Channels}

/-! ### One side at its end of the channel -/

/-- A side that reads and writes at one end of a channel. -/
def onEnd (stub : ChannelEnd) (own : Version) (stage : HandshakeStage) : Handshake :=
  ⟨stub.side, own, .channel stub.place stub.side, .channel stub.place stub.side, stage⟩

/-- A message is flushed, or waits for room, or some of it is sent. -/
theorem step_sending (hAt : stub.At channels) (own : Version) (rest : FrameSending)
    (agreed : Option Version) :
    rest.left = [] ∧ (onEnd stub own (.sending rest agreed)).step 0 channels =
        some (onEnd stub own (sent 0 agreed), channels) ∨
      (rest.left ≠ [] ∧ stub.capacity ≤ stub.sent.length ∧
        (onEnd stub own (.sending rest agreed)).step 0 channels = none) ∨
      ∃ taken next, taken ≠ [] ∧ rest.left = taken ++ next.left ∧
        (onEnd stub own (.sending rest agreed)).step 0 channels =
          some (onEnd stub own (.sending next agreed),
            { stub with sent := stub.sent ++ taken }.putIn channels) := by
  rcases rest.next_cases with ⟨hLeft, hNext⟩ | ⟨bytes, tail, hBytes, hNext, hLeft, hAdvance⟩
  · refine .inl ⟨hLeft, ?_⟩
    simp only [onEnd, step, hNext, ChannelEnd.flush_eq hAt, FrameSending.resume]
  · refine .inr ?_
    have hWrite := ChannelEnd.write_eq hAt bytes
    by_cases hFull : stub.capacity ≤ stub.sent.length
    · rw [if_pos hFull] at hWrite
      refine .inl ⟨by simp [hLeft, hBytes], hFull, ?_⟩
      simp only [onEnd, step, hNext, hWrite]
    · rw [if_neg hFull] at hWrite
      have hRoom : stub.capacity - stub.sent.length ≠ 0 := by omega
      have hTaken : bytes.take (stub.capacity - stub.sent.length) ≠ [] := by
        simp [hBytes, hRoom]
      have hParts := (List.take_append_drop (stub.capacity - stub.sent.length) bytes).symm
      refine .inr ⟨_, rest.advance (bytes.take (stub.capacity - stub.sent.length)).length, hTaken,
        ?_, ?_⟩
      · rw [hAdvance _ _ hParts, ← List.append_assoc, ← hParts, hLeft]
      · simp only [onEnd, step, hNext, hWrite, FrameSending.resume_accepted hTaken]

/-- A message is waited for, or some of it is read. -/
theorem step_receiving (hAt : stub.At channels) (own : Version) {ordinal : UInt16}
    {reading : FrameReading} {unread more : Bytes}
    (hExpects : reading.Expects (payload stub.side ordinal) unread)
    (hUnread : unread = stub.received ++ more) :
    (stub.received = [] ∧ (onEnd stub own (.reading patience reading)).step 0 channels = none) ∨
      ∃ taken rest stage, taken ≠ [] ∧ stub.received = taken ++ rest ∧
        (onEnd stub own (.reading patience reading)).step 0 channels =
          some (onEnd stub own stage, { stub with received := rest }.putIn channels) ∧
        ((∃ next, stage = .reading patience next ∧
            next.Expects (payload stub.side ordinal) (rest ++ more)) ∨
          rest ++ more = [] ∧ stage = receive stub.side own (payload stub.side ordinal)) := by
  have hRead := ChannelEnd.read_eq hAt reading.missing
  by_cases hNone : stub.received = []
  · rw [if_pos hNone] at hRead
    have hEarly : ¬ patience ≤ 0 := by decide
    refine .inl ⟨hNone, ?_⟩
    simp only [onEnd, step, hRead, if_neg hEarly]
  · rw [if_neg hNone] at hRead
    have hMissing := reading.missing_pos
    have hParts := (List.take_append_drop reading.missing stub.received).symm
    have hHeader : (payload stub.side ordinal).length < byteRange headerWidth := by
      rw [length_payload]
      decide
    have hTaken : stub.received.take reading.missing ≠ [] := by
      simp [hNone, Nat.ne_of_gt hMissing]
    rw [hUnread, hParts, List.append_assoc] at hExpects
    rcases hExpects.add (List.length_take_le _ _) (length_payload_le stub.side ordinal) hHeader with
      ⟨next, hAdd, hNext⟩ | ⟨hAdd, hEnd⟩
    · refine .inr ⟨_, _, .reading patience next, hTaken, hParts, ?_, .inl ⟨next, rfl, hNext⟩⟩
      simp only [onEnd, step, hRead, FrameReading.resume, hAdd]
    · refine .inr ⟨_, _, _, hTaken, hParts, ?_, .inr ⟨hEnd, rfl⟩⟩
      simp only [onEnd, step, hRead, FrameReading.resume, hAdd]

/-- Where a side stands that will agree on a version: what it has still to write, and what it has
still to read. -/
inductive Stands (dialing version : Version) : Side → Bytes → Bytes → HandshakeStage → Prop where
  | asking (rest : FrameSending) : Stands dialing version .dialer rest.left
      (wire (.versionResponse version.ordinal)) (.sending rest none)
  | awaiting {reading : FrameReading} {unread : Bytes}
      (hExpects : reading.Expects (payload .dialer version.ordinal) unread) :
      Stands dialing version .dialer [] unread (.reading patience reading)
  | listening {reading : FrameReading} {unread : Bytes}
      (hExpects : reading.Expects (payload .acceptor dialing.ordinal) unread) :
      Stands dialing version .acceptor (wire (.versionResponse version.ordinal)) unread
        (.reading patience reading)
  | answering (rest : FrameSending) :
      Stands dialing version .acceptor rest.left [] (.sending rest (some version))
  | finished (side : Side) : Stands dialing version side [] [] (.finished (.ok version))

/-- How much a side has still to do at most. What is written is flushed in the end, and a byte that
is read counts twice, since an answer may follow it. -/
def cost (left unread : Bytes) : HandshakeStage → Nat
  | .sending _ _ => left.length + 2 * unread.length + 1
  | .reading _ _ | .finished _ => left.length + 2 * unread.length

/-- Why a side does not go on. -/
inductive Rests (version : Version) (stub : ChannelEnd) (left unread : Bytes) :
    HandshakeStage → Prop where
  | finished : Rests version stub left unread (.finished (.ok version))
  /-- There is no room for what it writes. -/
  | full {rest : FrameSending} {agreed : Option Version} (hLeft : left ≠ [])
      (hFull : stub.capacity ≤ stub.sent.length) :
      Rests version stub left unread (.sending rest agreed)
  /-- Nothing is there of what it reads. -/
  | empty {deadline : Micros} {reading : FrameReading} (hUnread : unread ≠ [])
      (hEmpty : stub.received = []) : Rests version stub left unread (.reading deadline reading)

/-- What a side does at its end of the channel. Bytes go there or are read there, and less is to be
done; or there is a reason why it does not go on. -/
inductive Acts (dialing version own : Version) (stub : ChannelEnd) (channels : Channels)
    (left unread : Bytes) (stage : HandshakeStage) : Prop where
  | goes (taken : Bytes) {sentNext receivedNext leftNext unreadNext : Bytes} {next : HandshakeStage}
      (hStep : (onEnd stub own stage).step 0 channels = some (onEnd stub own next,
        { stub with sent := sentNext, received := receivedNext }.putIn channels))
      (hStands : Stands dialing version stub.side leftNext unreadNext next)
      (hSent : sentNext ++ leftNext = stub.sent ++ left)
      (hReceived : stub.received = taken ++ receivedNext)
      (hUnread : unread = taken ++ unreadNext)
      (hCost : cost leftNext unreadNext next < cost left unread stage) :
      Acts dialing version own stub channels left unread stage
  | rests (hStep : (onEnd stub own stage).step 0 channels = none)
      (hRests : Rests version stub left unread stage) :
      Acts dialing version own stub channels left unread stage

variable {dialing accepting version own : Version} {left unread more : Bytes}
  {stage : HandshakeStage}

theorem acts_sending (hAt : stub.At channels) (own : Version) {agreed : Option Version}
    (rest : FrameSending)
    (hSending : ∀ rest : FrameSending,
      Stands dialing version stub.side rest.left unread (.sending rest agreed))
    (hSent : Stands dialing version stub.side [] unread (sent 0 agreed)) :
    Acts dialing version own stub channels rest.left unread (.sending rest agreed) := by
  rcases step_sending hAt own rest agreed with ⟨hLeft, hStep⟩ | ⟨hLeft, hFull, hStep⟩ |
    ⟨taken, next, hTaken, hLeft, hStep⟩
  · refine .goes [] ?_ hSent (by rw [hLeft]) rfl rfl ?_
    · rw [hStep, ChannelEnd.putIn_self hAt]
    · cases agreed <;> simp only [sent, cost, hLeft, Nat.zero_add] <;> omega
  · exact .rests hStep (.full hLeft hFull)
  · have hSome := List.length_pos_of_ne_nil hTaken
    refine .goes [] hStep (hSending next) (by rw [hLeft, List.append_assoc]) rfl rfl ?_
    simp only [cost, hLeft, List.length_append]
    omega

theorem acts_receiving (hAt : stub.At channels) (own : Version) {ordinal : UInt16}
    {reading : FrameReading} (hExpects : reading.Expects (payload stub.side ordinal) unread)
    (hUnread : unread = stub.received ++ more)
    (hReading : ∀ {reading : FrameReading} {unread : Bytes},
      reading.Expects (payload stub.side ordinal) unread →
        Stands dialing version stub.side left unread (.reading patience reading))
    (hReceived : Stands dialing version stub.side left []
      (receive stub.side own (payload stub.side ordinal))) :
    Acts dialing version own stub channels left unread (.reading patience reading) := by
  rcases step_receiving hAt own hExpects hUnread with ⟨hEmpty, hStep⟩ |
    ⟨taken, rest, stage, hTaken, hParts, hStep, hStage⟩
  · exact .rests hStep (.empty hExpects.ne_nil hEmpty)
  have hSome := List.length_pos_of_ne_nil hTaken
  have hTakes : unread = taken ++ (rest ++ more) := by rw [hUnread, hParts, List.append_assoc]
  refine .goes taken hStep ?_ rfl hParts hTakes ?_
  · obtain ⟨next, rfl, hNext⟩ | ⟨hEnd, rfl⟩ := hStage
    · exact hReading hNext
    · rw [hEnd]
      exact hReceived
  · have hAtMost :
        cost left (rest ++ more) stage ≤ left.length + 2 * (rest ++ more).length + 1 := by
      cases stage <;> simp only [cost] <;> omega
    have hLength := congrArg List.length hTakes
    rw [@List.length_append _ taken] at hLength
    simp only [cost] at hAtMost ⊢
    omega

/-- A side goes on, or there is a reason why it does not. -/
theorem Stands.acts (hStands : Stands dialing version stub.side left unread stage)
    (hAt : stub.At channels) (hUnread : unread = stub.received ++ more)
    (hOwn : match stub.side with
      | .dialer => own.negotiate version.ordinal = .ok version
      | .acceptor => own.negotiate dialing.ordinal = .ok version) :
    Acts dialing version own stub channels left unread stage := by
  obtain ⟨place, side, capacity, sentBytes, received⟩ := stub
  simp only at hStands hUnread hOwn
  cases hStands with
  | asking rest =>
      refine acts_sending hAt own rest .asking (.awaiting ?_)
      exact wire_awaited .dialer version.ordinal ▸ FrameReading.expects_start _
  | awaiting hExpects =>
      refine acts_receiving hAt own hExpects hUnread .awaiting ?_
      rw [receive_payload hOwn]
      exact .finished .dialer
  | listening hExpects =>
      refine acts_receiving hAt own hExpects hUnread .listening ?_
      rw [receive_payload hOwn, settled]
      exact left_start .dialer version.ordinal ▸ .answering _
  | answering rest => exact acts_sending hAt own rest .answering (.finished .acceptor)
  | finished => exact .rests rfl .finished

/-! ### Both sides -/

/-- Two sides of a handshake, and the channels they use. -/
structure Talk where
  dialer : Handshake
  acceptor : Handshake
  channels : Channels

/-- Two sides that have not begun, and an empty channel between them. -/
def Talk.start (dialing accepting : Version) (capacity : Nat) : Talk where
  dialer := .start 0 .dialer dialing (.channel 0 .dialer) (.channel 0 .dialer)
  acceptor := .start 0 .acceptor accepting (.channel 0 .acceptor) (.channel 0 .acceptor)
  channels := [.ofCapacity capacity]

/-- Some number of steps, each of them of one side. -/
inductive Turns : Nat → Talk → Talk → Prop where
  | start (talk : Talk) : Turns 0 talk talk
  | dialer {count : Nat} {first talk : Talk} {next : Handshake} {later : Channels}
      (prior : Turns count first talk)
      (hStep : talk.dialer.step 0 talk.channels = some (next, later)) :
      Turns (count + 1) first { talk with dialer := next, channels := later }
  | acceptor {count : Nat} {first talk : Talk} {next : Handshake} {later : Channels}
      (prior : Turns count first talk)
      (hStep : talk.acceptor.step 0 talk.channels = some (next, later)) :
      Turns (count + 1) first { talk with acceptor := next, channels := later }

/-- Two versions and the one that both sides use then. -/
structure Lower (dialing accepting version : Version) : Prop where
  answers : accepting.negotiate dialing.ordinal = .ok version
  takes : dialing.negotiate version.ordinal = .ok version

theorem exists_lower (dialing accepting : Version) :
    ∃ version, Lower dialing accepting version ∧
      version.ordinal = min dialing.ordinal accepting.ordinal := by
  cases dialing <;> cases accepting
  · exact ⟨.v1, ⟨rfl, rfl⟩, rfl⟩
  · exact ⟨.v1, ⟨rfl, rfl⟩, rfl⟩
  · exact ⟨.v1, ⟨rfl, rfl⟩, rfl⟩
  · exact ⟨.v2, ⟨rfl, rfl⟩, rfl⟩

/-- The end of the dialer. Some bytes are on the way there, to the acceptor, and some back. -/
def dialerEnd (capacity : Nat) (there back : Bytes) : ChannelEnd :=
  ⟨0, .dialer, capacity, there, back⟩

def acceptorEnd (capacity : Nat) (there back : Bytes) : ChannelEnd :=
  ⟨0, .acceptor, capacity, back, there⟩

/-- What a side has written and the other has not read is what the other reads next. Together they
have less than `rank` to do. -/
inductive Meets (dialing accepting version : Version) (capacity rank : Nat) : Talk → Prop where
  | mk {there back leftDialer unreadDialer leftAcceptor unreadAcceptor : Bytes}
      {stageDialer stageAcceptor : HandshakeStage}
      (hLower : Lower dialing accepting version)
      (hDialer : Stands dialing version .dialer leftDialer unreadDialer stageDialer)
      (hAcceptor : Stands dialing version .acceptor leftAcceptor unreadAcceptor stageAcceptor)
      (hThere : unreadAcceptor = there ++ leftDialer)
      (hBack : unreadDialer = back ++ leftAcceptor)
      (hRank : cost leftDialer unreadDialer stageDialer +
        cost leftAcceptor unreadAcceptor stageAcceptor < rank) :
      Meets dialing accepting version capacity rank
        ⟨onEnd (dialerEnd capacity there back) dialing stageDialer,
          onEnd (acceptorEnd capacity there back) accepting stageAcceptor,
          [(dialerEnd capacity there back).channel]⟩

variable {capacity rank : Nat} {talk : Talk}

theorem meets_start (hLower : Lower dialing accepting version) (capacity : Nat) :
    Meets dialing accepting version capacity (2 * maxMessageSize)
      (.start dialing accepting capacity) := by
  have hAsks : Stands dialing version .dialer (wire (awaited .acceptor dialing.ordinal))
      (wire (.versionResponse version.ordinal))
      (.sending (.start (payload .acceptor dialing.ordinal)) none) := by
    rw [← left_start]
    exact .asking _
  have hListens : Stands dialing version .acceptor (wire (.versionResponse version.ordinal))
      (wire (awaited .acceptor dialing.ordinal)) (.reading patience .start) := by
    rw [wire_awaited]
    exact .listening (FrameReading.expects_start _)
  have hResponse : (wire (.versionResponse version.ordinal)).length = 9 := length_wire .dialer _
  rw [Talk.start, start_dialer]
  refine @Meets.mk dialing accepting version capacity (2 * maxMessageSize) [] [] _ _ _ _ _ _ hLower
    hAsks hListens rfl rfl ?_
  simp only [cost, length_wire, hResponse]
  decide

theorem acts_both {there back leftDialer unreadDialer leftAcceptor unreadAcceptor : Bytes}
    {stageDialer stageAcceptor : HandshakeStage} (hLower : Lower dialing accepting version)
    (capacity : Nat) (hDialer : Stands dialing version .dialer leftDialer unreadDialer stageDialer)
    (hAcceptor : Stands dialing version .acceptor leftAcceptor unreadAcceptor stageAcceptor)
    (hThere : unreadAcceptor = there ++ leftDialer) (hBack : unreadDialer = back ++ leftAcceptor) :
    Acts dialing version dialing (dialerEnd capacity there back)
        [(dialerEnd capacity there back).channel] leftDialer unreadDialer stageDialer ∧
      Acts dialing version accepting (acceptorEnd capacity there back)
        [(dialerEnd capacity there back).channel] leftAcceptor unreadAcceptor stageAcceptor := by
  constructor
  · exact @Stands.acts (dialerEnd capacity there back) _ _ _ _ _ _ _ _ hDialer rfl hBack
      hLower.takes
  · exact @Stands.acts (acceptorEnd capacity there back) _ _ _ _ _ _ _ _ hAcceptor rfl hThere
      hLower.answers

theorem Meets.dialer {next : Handshake} {later : Channels}
    (hMeets : Meets dialing accepting version capacity rank talk)
    (hStep : talk.dialer.step 0 talk.channels = some (next, later)) :
    ∃ less < rank, Meets dialing accepting version capacity less
      { talk with dialer := next, channels := later } := by
  obtain ⟨hLower, hDialer, hAcceptor, hThere, hBack, hRank⟩ := hMeets
  cases (acts_both hLower capacity hDialer hAcceptor hThere hBack).1 with
  | goes taken hGoes hStands hSent hReceived hUnread hCost =>
      cases hGoes.symm.trans hStep
      refine ⟨rank - 1, by omega,
        .mk hLower hStands hAcceptor (hThere.trans hSent.symm) ?_ (by omega)⟩
      simp only [dialerEnd] at hReceived
      rw [hUnread, hReceived, List.append_assoc] at hBack
      exact List.append_cancel_left hBack
  | rests hNone => cases hNone.symm.trans hStep

theorem Meets.acceptor {next : Handshake} {later : Channels}
    (hMeets : Meets dialing accepting version capacity rank talk)
    (hStep : talk.acceptor.step 0 talk.channels = some (next, later)) :
    ∃ less < rank, Meets dialing accepting version capacity less
      { talk with acceptor := next, channels := later } := by
  obtain ⟨hLower, hDialer, hAcceptor, hThere, hBack, hRank⟩ := hMeets
  cases (acts_both hLower capacity hDialer hAcceptor hThere hBack).2 with
  | goes taken hGoes hStands hSent hReceived hUnread hCost =>
      cases hGoes.symm.trans hStep
      refine ⟨rank - 1, by omega,
        .mk hLower hDialer hStands ?_ (hBack.trans hSent.symm) (by omega)⟩
      simp only [acceptorEnd] at hReceived
      rw [hUnread, hReceived, List.append_assoc] at hThere
      exact List.append_cancel_left hThere
  | rests hNone => cases hNone.symm.trans hStep

/-- When neither goes on, both have agreed. -/
theorem Meets.agreed (hMeets : Meets dialing accepting version capacity rank talk)
    (hCapacity : 0 < capacity) (hDialerStops : talk.dialer.step 0 talk.channels = none)
    (hAcceptorStops : talk.acceptor.step 0 talk.channels = none) :
    talk.dialer.result? = some (.ok version) ∧ talk.acceptor.result? = some (.ok version) := by
  obtain @⟨_, _, _, _, _, unreadAcceptor, _, _, hLower, hDialer, hAcceptor, hThere, hBack, -⟩ :=
    hMeets
  obtain ⟨hFirst, hSecond⟩ := acts_both hLower capacity hDialer hAcceptor hThere hBack
  cases hFirst with
  | goes taken hGoes => cases hGoes.symm.trans hDialerStops
  | rests hNone hDialerRests =>
  cases hSecond with
  | goes taken hGoes => cases hGoes.symm.trans hAcceptorStops
  | rests hNone hAcceptorRests =>
  cases hDialerRests with
  | finished =>
      cases hDialer
      obtain ⟨rfl, rfl⟩ := List.append_eq_nil_iff.1 hBack.symm
      cases hAcceptorRests with
      | finished => exact ⟨rfl, rfl⟩
      | full hLeft => exact absurd rfl hLeft
      | empty hUnread hEmpty =>
          simp only [acceptorEnd] at hEmpty
          exact absurd (by rw [hThere, hEmpty]; rfl) hUnread
  | full hLeft hFull =>
      -- The bytes that fill the channel are there for the acceptor.
      simp only [dialerEnd] at hFull
      have hUnread : unreadAcceptor ≠ [] := by
        rintro rfl
        rw [(List.append_eq_nil_iff.1 hThere.symm).1] at hFull
        exact absurd hFull (Nat.not_le.2 hCapacity)
      cases hAcceptorRests with
      | finished => cases hAcceptor; exact absurd rfl hUnread
      | full => cases hAcceptor; exact absurd rfl hUnread
      | empty _ hEmpty =>
          simp only [acceptorEnd] at hEmpty
          rw [hEmpty] at hFull
          exact absurd hFull (Nat.not_le.2 hCapacity)
  | empty hUnread hEmpty =>
      cases hDialer with
      | awaiting hExpects =>
      simp only [dialerEnd] at hEmpty
      rw [hEmpty] at hBack
      cases hAcceptorRests with
      | finished => cases hAcceptor; exact absurd hBack hUnread
      | full _ hFull =>
          simp only [acceptorEnd, hEmpty] at hFull
          exact absurd hFull (Nat.not_le.2 hCapacity)
      | empty hRest hNothing =>
          simp only [acceptorEnd] at hNothing
          exact absurd (by rw [hThere, hNothing]; rfl) hRest

theorem Turns.meets {count : Nat} {first : Talk} (hTurns : Turns count first talk)
    (hMeets : Meets dialing accepting version capacity rank first) :
    ∃ less, less + count ≤ rank ∧ Meets dialing accepting version capacity less talk := by
  induction hTurns with
  | start talk => exact ⟨rank, Nat.le_refl _, hMeets⟩
  | dialer prior hStep ih =>
      obtain ⟨some, hSome, hTalk⟩ := ih hMeets
      obtain ⟨less, hLess, hNext⟩ := hTalk.dialer hStep
      exact ⟨less, by omega, hNext⟩
  | acceptor prior hStep ih =>
      obtain ⟨some, hSome, hTalk⟩ := ih hMeets
      obtain ⟨less, hLess, hNext⟩ := hTalk.acceptor hStep
      exact ⟨less, by omega, hNext⟩

theorem meet_of_none {dialer acceptor : Handshake} (hDialer : dialer.step 0 channels = none)
    (hAcceptor : acceptor.step 0 channels = none) (rounds : Nat) :
    meet rounds dialer acceptor channels = (dialer, acceptor) := by
  induction rounds with
  | zero => rfl
  | succ rounds ih =>
      simp only [meet, hDialer, hAcceptor, Option.getD_none]
      exact ih

/-- In as many rounds as there is to do, both sides agree. -/
theorem Meets.meet {rounds : Nat} (hMeets : Meets dialing accepting version capacity rank talk)
    (hCapacity : 0 < capacity) (hRounds : rank ≤ rounds) :
    (Handshake.meet rounds talk.dialer talk.acceptor talk.channels).1.result? =
        some (.ok version) ∧
      (Handshake.meet rounds talk.dialer talk.acceptor talk.channels).2.result? =
        some (.ok version) := by
  induction rounds generalizing rank talk with
  | zero =>
      obtain ⟨-, -, -, -, -, hRank⟩ := hMeets
      omega
  | succ rounds ih =>
      cases hDialer : talk.dialer.step 0 talk.channels with
      | none =>
          cases hAcceptor : talk.acceptor.step 0 talk.channels with
          | none =>
              rw [meet_of_none hDialer hAcceptor]
              exact hMeets.agreed hCapacity hDialer hAcceptor
          | some after =>
              obtain ⟨less, hLess, hNext⟩ := hMeets.acceptor hAcceptor
              simp only [Handshake.meet, hDialer, hAcceptor, Option.getD_none, Option.getD_some]
              exact ih hNext (by omega)
      | some middle =>
          obtain ⟨less, hLess, hMiddle⟩ := hMeets.dialer hDialer
          cases hAcceptor : talk.acceptor.step 0 middle.2 with
          | none =>
              simp only [Handshake.meet, hDialer, hAcceptor, Option.getD_none, Option.getD_some]
              exact ih hMiddle (by omega)
          | some after =>
              obtain ⟨fewer, hFewer, hNext⟩ := hMiddle.acceptor hAcceptor
              simp only [Handshake.meet, hDialer, hAcceptor, Option.getD_some]
              exact ih hNext (by omega)

/-- The acceptor agrees on a version exactly if its stream begins with a request, takes that from
the stream and answers it, and else writes nothing. The dialer writes its request, and agrees
exactly if its stream begins with a response. Over a channel both agree on the lower version, in
whatever order they go on. -/
theorem versions_agree (own other : Version) (feed : Feed) {socket : Socket}
    (hAccepting : socket.Accepting) {capacity : Nat} (hCapacity : 0 < capacity) :
    (Concludes .acceptor own feed (scripted .acceptor own feed socket) ∧
      Answers socket (scripted .acceptor own feed socket)) ∧
    (Concludes .dialer own feed (scripted .dialer own feed socket) ∧
      Asks own feed socket (scripted .dialer own feed socket)) ∧
    ∃ version : Version, version.ordinal = min own.ordinal other.ordinal ∧
      overChannel own other capacity = (some (.ok version), some (.ok version)) ∧
      ∀ count talk, Turns count (.start own other capacity) talk →
        count ≤ 2 * maxMessageSize ∧
          (talk.dialer.step 0 talk.channels = none → talk.acceptor.step 0 talk.channels = none →
            talk.dialer.result? = some (.ok version) ∧
              talk.acceptor.result? = some (.ok version)) := by
  refine ⟨acceptor_concludes own feed hAccepting, dialer_concludes own feed hAccepting, ?_⟩
  obtain ⟨version, hLower, hVersion⟩ := exists_lower own other
  have hStart := meets_start hLower capacity
  refine ⟨version, hVersion, ?_, ?_⟩
  · obtain ⟨hDialer, hAcceptor⟩ := hStart.meet hCapacity (Nat.le_refl _)
    simp only [Talk.start] at hDialer hAcceptor
    simp only [overChannel]
    rw [hDialer, hAcceptor]
  · intro count talk hTurns
    obtain ⟨less, hLess, hMeets⟩ := hTurns.meets hStart
    exact ⟨by omega, hMeets.agreed hCapacity⟩

/-- A request in three pieces, with a byte after it, which stays; and a channel for one byte. -/
theorem versions_agree_in_pieces :
    let feed : Feed := ⟨[[0, 0], [0, 5, 0, 1, 0], [0, 1, 7]], .ended⟩
    let socket : Socket := { script := { writes := [.accept 2, .accept 3] } }
    let last := scripted .acceptor .v2 feed socket
    (socket.Accepting ∧ 0 < 1) ∧ last.result? = some (.ok .v1) ∧
      (∃ rest, last.inlet = .feed rest ∧ rest.chunks.flatten = [7]) ∧
      (∃ later, last.outlet = .socket later ∧ later.accepted = [0, 0, 0, 5, 0, 1, 1, 0, 1]) ∧
      overChannel .v2 .v1 1 = (some (.ok .v1), some (.ok .v1)) := by
  intro feed socket last
  have hAccepting : socket.Accepting := by
    refine ⟨?_, ?_⟩
    · intro action hAction
      obtain rfl | hAction := List.mem_cons.1 hAction
      · exact .inr ⟨2, by decide, rfl⟩
      · exact .inr ⟨3, by decide, List.mem_singleton.1 hAction⟩
    · intro action hAction
      cases hAction
  obtain ⟨⟨hConcludes, hAnswers⟩, -, version, hVersion, hChannel, -⟩ :=
    versions_agree .v2 .v1 feed hAccepting Nat.one_pos
  have hLower : version = .v1 := by
    cases version with
    | v1 => rfl
    | v2 => exact absurd hVersion (by decide)
  have hSettles : Settles .acceptor .v2 .v1 feed.chunks.flatten [7] := by
    refine ⟨1, by decide, by decide, ?_⟩
    rw [wire_awaited]
    rfl
  have hResult : last.result? = some (.ok .v1) := (hConcludes.ok_iff .v1).2 ⟨[7], hSettles⟩
  have hResponse : wire (.versionResponse Version.v1.ordinal) = [0, 0, 0, 5, 0, 1, 1, 0, 1] :=
    wire_awaited .dialer Version.v1.ordinal
  obtain ⟨rest, hInlet, hRest⟩ := hConcludes.takes .v1 hResult
  have hTold : Answers socket last := hAnswers
  rw [Answers, hResult] at hTold
  obtain ⟨later, hOutlet, hLater⟩ := hTold
  exact ⟨⟨hAccepting, Nat.one_pos⟩, hResult, ⟨rest, hInlet, hRest⟩,
    ⟨later, hOutlet, hLater.trans hResponse⟩, by rw [hChannel, hLower]⟩

end Handshake

end ConfigExchange
