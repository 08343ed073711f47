import ConfigExchange.Proofs.Cluster.Lock
import ConfigExchange.Proofs.Frame
import Mathlib.Data.List.Nodup

/-! The log of a connection: every attempt to send a frame on it, in order, with the number of bytes
that its socket accepted of that frame. It is recorded along a run, and what the socket accepted is
what the log says, because only one writer at a time has the connection to itself. -/
namespace ConfigExchange

theorem length_filter_le_one_iff {α : Type} (p : α → Bool) (list : List α) :
    (list.filter p).length ≤ 1 ↔ list.Pairwise fun earlier later => p earlier → ¬ p later := by
  induction list with
  | nil => simp
  | cons first rest ih =>
      rw [List.pairwise_cons, ← ih]
      by_cases hFirst : p first = true
      · have hNone : (rest.filter p).length = 0 ↔ ∀ later ∈ rest, ¬ p later := by simp
        rw [List.filter_cons_of_pos hFirst, List.length_cons]
        simp only [hFirst, forall_const, ← hNone]
        omega
      · rw [List.filter_cons_of_neg hFirst]
        simp [hFirst]

/-- An attempt to send a frame: who made it, what it was to send, and how many bytes of the frame
were accepted. -/
structure Attempt where
  writer : SessionId
  payload : Bytes
  sent : Nat
  deriving DecidableEq

namespace Attempt

/-- The length of the frame. -/
def size (attempt : Attempt) : Nat := (frame attempt.payload).length

/-- The bytes of the frame that were accepted. -/
def bytes (attempt : Attempt) : Bytes := (frame attempt.payload).take attempt.sent

/-- The whole frame was accepted. -/
def Whole (attempt : Attempt) : Prop := attempt.sent = attempt.size

/-- Some of the frame was accepted, and some was not. -/
def Torn (attempt : Attempt) : Prop := 0 < attempt.sent ∧ attempt.sent < attempt.size

instance (attempt : Attempt) : Decidable attempt.Whole :=
  inferInstanceAs (Decidable (attempt.sent = attempt.size))

instance (attempt : Attempt) : Decidable attempt.Torn :=
  inferInstanceAs (Decidable (0 < attempt.sent ∧ attempt.sent < attempt.size))

/-- More bytes of the frame of a writer were accepted. -/
def credit (id : SessionId) (count : Nat) (log : List Attempt) : List Attempt :=
  log.map fun attempt =>
    if attempt.writer = id then { attempt with sent := attempt.sent + count } else attempt

theorem credit_zero (id : SessionId) (log : List Attempt) : credit id 0 log = log := by
  unfold credit
  conv => rhs; rw [← List.map_id log]
  apply List.map_congr_left
  intro attempt _
  show (if attempt.writer = id then { attempt with sent := attempt.sent + 0 } else attempt) =
    attempt
  split <;> rfl

theorem map_writer_credit (id : SessionId) (count : Nat) (log : List Attempt) :
    (credit id count log).map (·.writer) = log.map (·.writer) := by
  unfold credit
  rw [List.map_map]
  apply List.map_congr_left
  intro attempt _
  show (if attempt.writer = id then { attempt with sent := attempt.sent + count }
    else attempt).writer = attempt.writer
  split <;> rfl

/-- Where a writer made the last attempt and no other, only that attempt grows. -/
theorem credit_last {id : SessionId} {earlier : List Attempt}
    (hEarlier : id ∉ earlier.map (·.writer)) (count : Nat) (payload : Bytes) (sent : Nat) :
    credit id count (earlier ++ [⟨id, payload, sent⟩]) =
      earlier ++ [⟨id, payload, sent + count⟩] := by
  have hSame : earlier.map (fun attempt =>
      if attempt.writer = id then { attempt with sent := attempt.sent + count } else attempt) =
      earlier := by
    conv => rhs; rw [← List.map_id earlier]
    apply List.map_congr_left
    intro attempt hAttempt
    rw [if_neg fun hEq => hEarlier (List.mem_map.2 ⟨attempt, hAttempt, hEq⟩)]
    rfl
  simp [credit, hSame]

end Attempt

/-- Whether a writer that has come this far has started to send its frame, if it ever will. -/
def WriterStage.hasBegun : WriterStage → Bool
  | sending .. | finished _ | dropped => true
  | _ => false

/-! ### What the log records -/

/-- How a log fits the stages of the writers and the bytes that were accepted. -/
structure Ledger (stages : SessionId → Option WriterStage) (log : List Attempt)
    (accepted : Bytes) : Prop where
  accepted : accepted = log.flatMap Attempt.bytes
  within : ∀ attempt ∈ log, attempt.sent ≤ attempt.size
  distinct : (log.map (·.writer)).Nodup
  begun : ∀ attempt ∈ log, ∃ stage, stages attempt.writer = some stage ∧ stage.hasBegun = true
  /-- A writer that sends its frame made the last attempt. -/
  ongoing : ∀ id buffer rest, stages id = some (.sending buffer rest) →
    ∃ earlier sent, log = earlier ++ [⟨id, buffer.bytes, sent⟩] ∧
      rest.left = (frame buffer.bytes).drop sent
  /-- A writer that succeeded has sent its whole frame. -/
  succeeded : ∀ id, stages id = some (.finished (.ok ())) →
    ∃ attempt ∈ log, attempt.writer = id ∧ attempt.Whole

namespace Ledger

variable {stages : SessionId → Option WriterStage} {log : List Attempt} {accepted : Bytes}
  {id : SessionId}

/-- A writer that has not begun is not in the log. -/
theorem not_mem (hLedger : Ledger stages log accepted)
    (hStage : ∀ stage, stages id = some stage → stage.hasBegun = false) :
    id ∉ log.map (·.writer) := by
  intro hMem
  obtain ⟨attempt, hAttempt, rfl⟩ := List.mem_map.1 hMem
  obtain ⟨stage, hSome, hBegun⟩ := hLedger.begun attempt hAttempt
  exact Bool.false_ne_true ((hStage stage hSome).symm.trans hBegun)

/-- A writer that goes on without sending leaves no trace, and succeeds only if it has sent its
whole frame. -/
theorem update (hLedger : Ledger stages log accepted) {last : WriterStage}
    (hBegun : ∀ stage, stages id = some stage → stage.hasBegun = true → last.hasBegun = true)
    (hSending : ∀ buffer rest, last ≠ .sending buffer rest)
    (hOk : last = .finished (.ok ()) → ∃ attempt ∈ log, attempt.writer = id ∧ attempt.Whole) :
    Ledger (Function.update stages id (some last)) log accepted := by
  refine ⟨hLedger.accepted, hLedger.within, hLedger.distinct, ?_, ?_, ?_⟩
  · intro attempt hAttempt
    obtain ⟨stage, hStage, hStageBegun⟩ := hLedger.begun attempt hAttempt
    by_cases hId : attempt.writer = id
    · rw [hId] at hStage ⊢
      exact ⟨last, Function.update_self .., hBegun stage hStage hStageBegun⟩
    · exact ⟨stage, by rw [Function.update_of_ne hId, hStage], hStageBegun⟩
  · intro other buffer rest hOther
    by_cases hId : other = id
    · rw [hId, Function.update_self] at hOther
      exact absurd (Option.some_inj.1 hOther) (hSending buffer rest)
    · rw [Function.update_of_ne hId] at hOther
      exact hLedger.ongoing other buffer rest hOther
  · intro other hOther
    by_cases hId : other = id
    · rw [hId, Function.update_self] at hOther
      rw [hId]
      exact hOk (Option.some_inj.1 hOther)
    · rw [Function.update_of_ne hId] at hOther
      exact hLedger.succeeded other hOther

/-- A writer that begins to send makes a new attempt, if nobody else is sending. -/
theorem begin (hLedger : Ledger stages log accepted) {buffer : Buffer}
    (hStage : stages id = some (.opened buffer))
    (hIdle : ∀ other buffer rest, stages other ≠ some (.sending buffer rest)) :
    Ledger (Function.update stages id (some (.sending buffer (.start buffer.bytes))))
      (log ++ [⟨id, buffer.bytes, 0⟩]) accepted := by
  have hNew : id ∉ log.map (·.writer) := by
    apply hLedger.not_mem
    intro stage hSome
    cases hStage.symm.trans hSome
    rfl
  refine ⟨?_, ?_, ?_, ?_, ?_, ?_⟩
  · simp [hLedger.accepted, Attempt.bytes]
  · intro attempt hAttempt
    rcases List.mem_append.1 hAttempt with hOld | hLast
    · exact hLedger.within attempt hOld
    · cases List.mem_singleton.1 hLast
      exact Nat.zero_le _
  · rw [List.map_append, List.nodup_append]
    refine ⟨hLedger.distinct, by simp, ?_⟩
    intro writer hWriter last hLast hEq
    have hId : last = id := by simpa using hLast
    exact hNew (hId ▸ hEq ▸ hWriter)
  · intro attempt hAttempt
    rcases List.mem_append.1 hAttempt with hOld | hLast
    · have hNe : attempt.writer ≠ id := fun hEq => hNew (List.mem_map.2 ⟨attempt, hOld, hEq⟩)
      rw [Function.update_of_ne hNe]
      exact hLedger.begun attempt hOld
    · cases List.mem_singleton.1 hLast
      exact ⟨_, Function.update_self .., rfl⟩
  · intro other buffer' rest hOther
    by_cases hId : other = id
    · rw [hId, Function.update_self] at hOther
      cases hOther
      exact ⟨log, 0, by rw [hId], rfl⟩
    · rw [Function.update_of_ne hId] at hOther
      exact absurd hOther (hIdle other buffer' rest)
  · intro other hOther
    by_cases hId : other = id
    · rw [hId, Function.update_self] at hOther
      cases hOther
    · rw [Function.update_of_ne hId] at hOther
      obtain ⟨attempt, hMem, hWriter, hWhole⟩ := hLedger.succeeded other hOther
      exact ⟨attempt, List.mem_append_left _ hMem, hWriter, hWhole⟩

/-- A writer whose last attempt grows by what the socket took of it. -/
theorem grow (hLedger : Ledger stages log accepted) {buffer : Buffer} {rest next : FrameSending}
    (hStage : stages id = some (.sending buffer rest))
    (hAlone : ∀ other buffer rest, stages other = some (.sending buffer rest) → other = id)
    {taken : Bytes} (hLeft : rest.left = taken ++ next.left) :
    Ledger (Function.update stages id (some (.sending buffer next)))
      (Attempt.credit id taken.length log) (accepted ++ taken) := by
  obtain ⟨earlier, sent, hLog, hRest⟩ := hLedger.ongoing id buffer rest hStage
  have hDistinct := hLedger.distinct
  rw [hLog, List.map_append, List.nodup_append] at hDistinct
  have hEarlier : id ∉ earlier.map (·.writer) := fun hMem =>
    hDistinct.2.2 id hMem id (by simp) rfl
  have hWithin := hLedger.within ⟨id, buffer.bytes, sent⟩ (by simp [hLog])
  have hDrop : (frame buffer.bytes).drop sent = taken ++ next.left := hRest.symm.trans hLeft
  have hTaken : taken.length + next.left.length = (frame buffer.bytes).length - sent := by
    rw [← List.length_append, ← hDrop, List.length_drop]
  have hGrown := Attempt.credit_last hEarlier taken.length buffer.bytes sent
  rw [← hLog] at hGrown
  rw [hGrown]
  refine ⟨?_, ?_, ?_, ?_, ?_, ?_⟩
  · have hBytes : (frame buffer.bytes).take (sent + taken.length) =
        (frame buffer.bytes).take sent ++ taken := by
      rw [List.take_add, hDrop, List.take_left]
    rw [hLedger.accepted, hLog]
    simp [Attempt.bytes, hBytes]
  · intro attempt hAttempt
    rcases List.mem_append.1 hAttempt with hOld | hLast
    · exact hLedger.within attempt (by simp [hLog, hOld])
    · cases List.mem_singleton.1 hLast
      unfold Attempt.size at hWithin ⊢
      simp only at hWithin ⊢
      omega
  · rw [List.map_append, List.nodup_append]
    exact hDistinct
  · intro attempt hAttempt
    rcases List.mem_append.1 hAttempt with hOld | hLast
    · have hNe : attempt.writer ≠ id := fun hEq => hEarlier (List.mem_map.2 ⟨attempt, hOld, hEq⟩)
      rw [Function.update_of_ne hNe]
      exact hLedger.begun attempt (by simp [hLog, hOld])
    · cases List.mem_singleton.1 hLast
      exact ⟨_, Function.update_self .., rfl⟩
  · intro other buffer' rest' hOther
    by_cases hId : other = id
    · rw [hId, Function.update_self] at hOther
      cases hOther
      refine ⟨earlier, sent + taken.length, by rw [hId], ?_⟩
      rw [← List.drop_drop, hDrop, List.drop_left]
    · rw [Function.update_of_ne hId] at hOther
      exact absurd (hAlone other buffer' rest' hOther) hId
  · intro other hOther
    by_cases hId : other = id
    · rw [hId, Function.update_self] at hOther
      cases hOther
    · rw [Function.update_of_ne hId] at hOther
      obtain ⟨attempt, hMem, hWriter, hWhole⟩ := hLedger.succeeded other hOther
      rw [hLog] at hMem
      rcases List.mem_append.1 hMem with hOld | hLast
      · exact ⟨attempt, List.mem_append_left _ hOld, hWriter, hWhole⟩
      · cases List.mem_singleton.1 hLast
        exact absurd hWriter.symm hId

/-- A writer with nothing left to send has sent its whole frame. -/
theorem whole (hLedger : Ledger stages log accepted) {buffer : Buffer} {rest : FrameSending}
    (hStage : stages id = some (.sending buffer rest)) (hLeft : rest.left = []) :
    ∃ attempt ∈ log, attempt.writer = id ∧ attempt.Whole := by
  obtain ⟨earlier, sent, hLog, hRest⟩ := hLedger.ongoing id buffer rest hStage
  have hWithin := hLedger.within ⟨id, buffer.bytes, sent⟩ (by simp [hLog])
  have hAll := List.drop_eq_nil_iff.1 (hRest.symm.trans hLeft)
  exact ⟨⟨id, buffer.bytes, sent⟩, by simp [hLog], rfl, Nat.le_antisymm hWithin hAll⟩

/-- Every attempt but the last has ended: its writer succeeded with the whole frame, or failed. -/
theorem settled (hLedger : Ledger stages log accepted) {earlier later : Attempt}
    (hPair : [earlier, later].Sublist log) :
    ∃ stage, stages earlier.writer = some stage ∧
      (stage.Failed ∨ stage = .finished (.ok ()) ∧ earlier.Whole) := by
  have hMem : earlier ∈ log := hPair.subset (by simp)
  obtain ⟨stage, hStage, hBegun⟩ := hLedger.begun earlier hMem
  refine ⟨stage, hStage, ?_⟩
  cases stage with
  | sending buffer rest =>
      -- The writer made the last attempt, and no other, but `later` comes after `earlier`.
      obtain ⟨before, sent, hLog, -⟩ := hLedger.ongoing _ _ _ hStage
      have hDistinct := hLedger.distinct
      rw [hLog, List.map_append, List.nodup_append] at hDistinct
      rw [hLog] at hPair
      have hBefore : earlier ∈ before := by
        have hTail := hPair.reverse.tail
        simpa using hTail.subset
      exact absurd rfl (hDistinct.2.2 _ (List.mem_map_of_mem hBefore) _ (by simp))
  | finished result =>
      cases result with
      | ok =>
          obtain ⟨attempt, hAttempt, hWriter, hWhole⟩ := hLedger.succeeded _ hStage
          have hSame := List.inj_on_of_nodup_map hLedger.distinct hAttempt hMem hWriter
          exact .inr ⟨rfl, hSame ▸ hWhole⟩
      | error error => exact .inl (.finished error)
  | dropped => exact .inl .dropped
  | _ => cases hBegun

end Ledger

/-! ### Watching a connection -/

/-- What was accepted by the socket that is written to, if it is one. -/
def Outlet.accepted : Outlet → Bytes
  | socket found => found.accepted
  | channel .. => []

/-- What the socket of a connection accepted so far. -/
def Cluster.accepted (cluster : Cluster) (index : Nat) : Bytes :=
  (cluster.connections[index]?.map (·.outlet.accepted)).getD []

theorem Cluster.accepted_eq {cluster : Cluster} {index : Nat} {connection : Connection}
    {socket : Socket} (hConnection : cluster.connections[index]? = some connection)
    (hOutlet : connection.outlet = .socket socket) : cluster.accepted index = socket.accepted := by
  rw [accepted, hConnection, Option.map_some, Option.getD_some, hOutlet]
  rfl

/-- A cluster, and the log of one of its connections. -/
structure Watch where
  cluster : Cluster
  log : List Attempt := []

namespace Watch

variable {index : Nat}

/-- The log after an event: a writer that begins to send makes a new attempt, and what the socket
accepts while a writer sends is of its frame. -/
def note (index : Nat) (before after : Cluster) (subject : Option SessionId)
    (log : List Attempt) : List Attempt :=
  match subject with
  | none => log
  | some id =>
    match before.stage? index id, after.stage? index id with
    | some (.opened _), some (.sending buffer _) => log ++ [⟨id, buffer.bytes, 0⟩]
    | some (.sending ..), _ =>
      Attempt.credit id ((after.accepted index).length - (before.accepted index).length) log
    | _, _ => log

def perform (index : Nat) (watch : Watch) (event : Cluster.Event) : Watch :=
  let after := watch.cluster.perform event
  ⟨after, note index watch.cluster after event.subject? watch.log⟩

def run (index : Nat) (watch : Watch) (events : List Cluster.Event) : Watch :=
  events.foldl (perform index) watch

/-- Only a writer that has filled its buffer comes into the log. -/
theorem writers_perform (index : Nat) (watch : Watch) (event : Cluster.Event) :
    (watch.perform index event).log.map (·.writer) = watch.log.map (·.writer) ∨
      ∃ id buffer later rest, event.subject? = some id ∧
        watch.cluster.stage? index id = some (.opened buffer) ∧
        (watch.perform index event).cluster.stage? index id = some (.sending later rest) ∧
        (watch.perform index event).log.map (·.writer) = watch.log.map (·.writer) ++ [id] := by
  show (note index watch.cluster _ event.subject? watch.log).map (·.writer) = _ ∨
    ∃ id buffer later rest, _ ∧ _ ∧ _ ∧
      (note index watch.cluster _ event.subject? watch.log).map (·.writer) = _
  cases event.subject? with
  | none => exact .inl rfl
  | some id =>
      unfold note
      simp only
      split
      · next buffer sent rest hBefore hAfter =>
        exact .inr ⟨id, buffer, sent, rest, rfl, hBefore, hAfter, by simp⟩
      · exact .inl (Attempt.map_writer_credit ..)
      · exact .inl rfl

/-- What holds of a watched connection all the time. -/
structure Sound (index : Nat) (watch : Watch) (connection : Connection) (socket : Socket) :
    Prop where
  present : watch.cluster.connections[index]? = some connection
  outlet : connection.outlet = .socket socket
  held : Held (watch.cluster.stage? index) connection.lock
  ledger : Ledger (watch.cluster.stage? index) watch.log socket.accepted

/-- Where no writer begins and none sends, nothing is noted. -/
theorem note_of_accepted {before after : Cluster} {id : SessionId} (log : List Attempt)
    (hBegins : ∀ buffer, before.stage? index id = some (.opened buffer) →
      ∀ buffer rest, after.stage? index id ≠ some (.sending buffer rest))
    (hAccepted : after.accepted index = before.accepted index) :
    note index before after (some id) log = log := by
  unfold note
  simp only
  split
  · next buffer rest hBefore hAfter =>
    exact absurd hAfter (hBegins _ hBefore _ _)
  · rw [hAccepted, Nat.sub_self, Attempt.credit_zero]
  · rfl

/-- A turn that is not one of a writer leaves the log as it is. -/
theorem note_of_stages {before after : Cluster} (subject : Option SessionId) (log : List Attempt)
    (hStages : after.stage? index = before.stage? index)
    (hAccepted : after.accepted index = before.accepted index) :
    note index before after subject log = log := by
  cases subject with
  | none => rfl
  | some id =>
      refine note_of_accepted log (fun buffer hBefore other rest hAfter => ?_) hAccepted
      rw [hStages, hBefore] at hAfter
      cases hAfter

/-- A call on an outlet that is a socket is one on the socket. -/
theorem call_socket {connection : Connection} {socket : Socket}
    (hOutlet : connection.outlet = .socket socket) {channels later : Channels} {call : SocketCall}
    {answer : CallAnswer} {outlet : Outlet}
    (hCall : connection.outlet.call channels call = (answer, outlet, later)) :
    (socket.call call).1 = answer ∧ outlet = .socket (socket.call call).2 := by
  rw [hOutlet] at hCall
  cases hCall
  exact ⟨rfl, rfl⟩

/-- A closer leaves what was accepted as it is. -/
theorem accepted_of_closes {connection next : Connection} {socket : Socket} {id : SessionId}
    {stage last : ClosingStage} (hOutlet : connection.outlet = .socket socket)
    (hTurn : ClosingTurn id connection stage next last) :
    ∃ later, next.outlet = .socket later ∧ later.accepted = socket.accepted := by
  cases hTurn with
  | late | marks | leaves | quits => exact ⟨socket, hOutlet, rfl⟩
  | shuts hLock hCall =>
      obtain ⟨-, hLater⟩ := call_socket hOutlet hCall
      exact ⟨_, hLater, socket.accepted_shutdown⟩

/-- A turn of a writer that sends nothing, and does not begin to, leaves the log as it is. -/
theorem Sound.quiet {watch : Watch} {connection next : Connection} {socket later : Socket}
    {after : Cluster} {id : SessionId} {stage last : WriterStage}
    (hSound : Sound index watch connection socket)
    (hStage : watch.cluster.stage? index id = some stage)
    (hStages : after.stage? index = Function.update (watch.cluster.stage? index) id (some last))
    (hNext : after.connections[index]? = some next) (hOutlet : next.outlet = .socket later)
    (hAccepted : later.accepted = socket.accepted)
    (hBegun : stage.hasBegun = true → last.hasBegun = true)
    (hSending : ∀ buffer rest, last ≠ .sending buffer rest)
    (hOk : last = .finished (.ok ()) →
      ∃ attempt ∈ watch.log, attempt.writer = id ∧ attempt.Whole) :
    Ledger (after.stage? index) (note index watch.cluster after (some id) watch.log)
      later.accepted := by
  rw [note_of_accepted, hStages, hAccepted]
  · refine hSound.ledger.update (fun found hFound => ?_) hSending hOk
    cases hStage.symm.trans hFound
    exact hBegun
  · intro buffer _ other rest hAfter
    rw [hStages, Function.update_self] at hAfter
    exact hSending other rest (Option.some_inj.1 hAfter)
  · rw [Cluster.accepted_eq hNext hOutlet, hAccepted,
      Cluster.accepted_eq hSound.present hSound.outlet]

/-- The log goes on to say what was accepted, whatever turn a writer takes. -/
theorem Sound.writes {watch : Watch} {connection next : Connection} {socket : Socket}
    {after : Cluster} {id : SessionId} {stage last : WriterStage}
    (hSound : Sound index watch connection socket)
    (hNext : after.connections[index]? = some next)
    (hStage : watch.cluster.stage? index id = some stage)
    (hStages : after.stage? index = Function.update (watch.cluster.stage? index) id (some last))
    (hTurn : WriterTurn id connection stage next last) :
    ∃ later, next.outlet = .socket later ∧ Ledger (after.stage? index)
      (note index watch.cluster after (some id) watch.log) later.accepted := by
  have hOutlet := hSound.outlet
  have hAlone : ∀ {found : WriterStage} {other : SessionId}, stage.holds = true →
      watch.cluster.stage? index other = some found → found.holds = true → other = id :=
    fun hHolds hFound hOther => hSound.held.alone hStage hHolds hFound hOther
  cases hTurn with
  | queues | asks | gets | fills =>
      exact ⟨socket, hOutlet, hSound.quiet hStage hStages hNext hOutlet rfl nofun nofun nofun⟩
  | flushes buffer hSize =>
      have hNote : note index watch.cluster after (some id) watch.log =
          watch.log ++ [⟨id, buffer.bytes, 0⟩] := by
        simp [note, hStage, hStages]
      refine ⟨socket, hOutlet, ?_⟩
      rw [hNote, hStages]
      refine hSound.ledger.begin hStage fun other found rest hFound => ?_
      rw [hAlone rfl hFound rfl, hStage] at hFound
      cases hFound
  | @sends buffer rest more channels left answer outlet hCall hResume =>
      obtain ⟨hAnswer, hLater⟩ := call_socket hOutlet hCall
      obtain ⟨taken, hAccepted, hProgress⟩ := rest.resumes_call socket
      rw [hAnswer, hResume] at hProgress
      have hNote : note index watch.cluster after (some id) watch.log =
          Attempt.credit id taken.length watch.log := by
        have hGrown : (after.accepted index).length - (watch.cluster.accepted index).length =
            taken.length := by
          rw [Cluster.accepted_eq hNext hLater, Cluster.accepted_eq hSound.present hOutlet,
            hAccepted, List.length_append, Nat.add_sub_cancel_left]
        simp [note, hStage, hGrown]
      refine ⟨_, hLater, ?_⟩
      rw [hNote, hStages, hAccepted]
      exact hSound.ledger.grow hStage (fun other _ _ hFound => hAlone rfl hFound rfl) hProgress
  | @completes buffer rest channels left answer outlet hCall hResume =>
      obtain ⟨hAnswer, hLater⟩ := call_socket hOutlet hCall
      obtain ⟨taken, hAccepted, hProgress⟩ := rest.resumes_call socket
      rw [hAnswer, hResume] at hProgress
      rw [hProgress.1, List.append_nil] at hAccepted
      exact ⟨_, hLater, hSound.quiet hStage hStages hNext hLater hAccepted (fun _ => rfl) nofun
        fun _ => hSound.ledger.whole hStage hProgress.2⟩
  | @breaks buffer rest channels left answer outlet error hCall hResume =>
      obtain ⟨hAnswer, hLater⟩ := call_socket hOutlet hCall
      obtain ⟨taken, hAccepted, hProgress⟩ := rest.resumes_call socket
      rw [hAnswer, hResume] at hProgress
      rw [hProgress, List.append_nil] at hAccepted
      exact ⟨_, hLater, hSound.quiet hStage hStages hNext hLater hAccepted (fun _ => rfl) nofun
        nofun⟩
  | leaves _ hFailed | quits _ hFailed =>
      refine ⟨socket, hOutlet, hSound.quiet hStage hStages hNext hOutlet rfl ?_ ?_ ?_⟩ <;>
        cases hFailed <;> simp [WriterStage.hasBegun]

/-- A watched connection stays sound, whatever turn is taken on it. -/
theorem Sound.turn {watch : Watch} {connection next : Connection} {socket : Socket}
    {after : Cluster}
    {subject : Option SessionId} (hSound : Sound index watch connection socket)
    (hNext : after.connections[index]? = some next)
    (hTurn : Cluster.Turn index watch.cluster after connection subject next) :
    ∃ later, Sound index ⟨after, note index watch.cluster after subject watch.log⟩ next later := by
  have hBefore := Cluster.accepted_eq hSound.present hSound.outlet
  have hHeld := hSound.held.turn hTurn
  cases hTurn with
  | still hStages | comes _ _ hStages =>
      have hAfter := Cluster.accepted_eq hNext hSound.outlet
      refine ⟨socket, hNext, hSound.outlet, hHeld, ?_⟩
      rw [hStages, note_of_stages _ _ hStages (hAfter.trans hBefore.symm)]
      exact hSound.ledger
  | arrives id hNew hStages =>
      refine ⟨socket, hNext, hSound.outlet, hHeld, ?_⟩
      rw [hStages]
      refine hSound.ledger.update (fun stage hStage => ?_) nofun nofun
      cases hNew.symm.trans hStage
  | closes id hCloser hStages hClosing =>
      obtain ⟨later, hOutlet, hAccepted⟩ := accepted_of_closes hSound.outlet hClosing
      have hAfter := Cluster.accepted_eq hNext hOutlet
      refine ⟨later, hNext, hOutlet, hHeld, ?_⟩
      rw [hStages, note_of_stages _ _ hStages (by rw [hAfter, hAccepted, hBefore]), hAccepted]
      exact hSound.ledger
  | unstalls hOutlet hStages =>
      cases hSound.outlet.symm.trans hOutlet
      refine ⟨_, hNext, rfl, hHeld, ?_⟩
      rw [hStages, Socket.accepted_unstall]
      exact hSound.ledger
  | writes id hStage hStages hWriter =>
      obtain ⟨later, hOutlet, hLedger⟩ := hSound.writes hNext hStage hStages hWriter
      exact ⟨later, hNext, hOutlet, hHeld, hLedger⟩

theorem Sound.perform {watch : Watch} {connection : Connection} {socket : Socket}
    (hSound : Sound index watch connection socket) (event : Cluster.Event) :
    ∃ next later, Sound index (watch.perform index event) next later := by
  obtain ⟨next, hNext, hTurn⟩ := Cluster.turn_perform hSound.present event
  obtain ⟨later, hLater⟩ := hSound.turn hNext hTurn
  exact ⟨next, later, hLater⟩

theorem Sound.run {watch : Watch} {connection : Connection} {socket : Socket}
    (hSound : Sound index watch connection socket) (events : List Cluster.Event) :
    ∃ next later, Sound index (watch.run index events) next later := by
  induction events generalizing watch connection socket with
  | nil => exact ⟨connection, socket, hSound⟩
  | cons first rest ih =>
      obtain ⟨next, later, hNext⟩ := hSound.perform first
      exact ih hNext

/-- A connection that no writer has come to yet, and whose socket has accepted nothing. -/
structure Fresh (index : Nat) (cluster : Cluster) : Prop where
  connection : ∃ connection script, cluster.connections[index]? = some connection ∧
    connection.outlet = .socket { script }
  unused : ∀ id, cluster.stage? index id = none

theorem Fresh.sound {cluster : Cluster} (hFresh : Fresh index cluster) :
    ∃ connection socket, Sound index ⟨cluster, []⟩ connection socket := by
  obtain ⟨connection, script, hConnection, hOutlet⟩ := hFresh.connection
  refine ⟨connection, _, hConnection, hOutlet, ?_, ?_⟩
  · intro id stage hStage
    cases (hFresh.unused id).symm.trans hStage
  · refine ⟨rfl, nofun, List.nodup_nil, nofun, ?_, ?_⟩
    · intro id buffer rest hStage
      cases (hFresh.unused id).symm.trans hStage
    · intro id hStage
      cases (hFresh.unused id).symm.trans hStage

/-! ### Whole frames -/

/-- What was accepted is whole frames, then at most one that was cut off, and then nothing. -/
def Framed (log : List Attempt) : Prop :=
  ∃ whole cut silent, log = whole ++ cut ++ silent ∧
    (∀ attempt ∈ whole, attempt.Whole ∨ attempt.sent = 0) ∧
    (cut.length ≤ 1 ∧ ∀ attempt ∈ cut, attempt.sent < attempt.size) ∧
    ∀ attempt ∈ silent, attempt.sent = 0

/-- Frames are whole up to the last one exactly if nothing is accepted after a torn one. -/
theorem framed_iff {log : List Attempt} (hWithin : ∀ attempt ∈ log, attempt.sent ≤ attempt.size) :
    Framed log ↔ log.Pairwise fun earlier later => earlier.Torn → later.sent = 0 := by
  constructor
  · rintro ⟨whole, cut, silent, rfl, hWhole, ⟨hOne, -⟩, hSilent⟩
    have hIntact : ∀ attempt ∈ whole, ¬ attempt.Torn := by
      intro attempt hAttempt hTorn
      rcases hWhole attempt hAttempt with hAll | hNone
      · exact absurd hAll (Nat.ne_of_lt hTorn.2)
      · exact absurd hNone (Nat.ne_of_gt hTorn.1)
    rw [List.pairwise_append, List.pairwise_append]
    refine ⟨⟨?_, ?_, ?_⟩, ?_, ?_⟩
    · exact List.pairwise_of_forall_mem_list fun earlier hEarlier later _ hTorn =>
        absurd hTorn (hIntact earlier hEarlier)
    · match cut, hOne with
      | [], _ => exact .nil
      | [only], _ => exact List.pairwise_singleton _ _
    · exact fun earlier hEarlier later _ hTorn => absurd hTorn (hIntact earlier hEarlier)
    · exact List.pairwise_of_forall_mem_list fun earlier _ later hLater _ => hSilent later hLater
    · exact fun earlier _ later hLater _ => hSilent later hLater
  · intro hPairwise
    induction log with
    | nil => exact ⟨[], [], [], rfl, nofun, ⟨Nat.zero_le _, nofun⟩, nofun⟩
    | cons first rest ih =>
        obtain ⟨hFirst, hRest⟩ := List.pairwise_cons.1 hPairwise
        by_cases hTorn : first.Torn
        · refine ⟨[], [first], rest, rfl, nofun, ⟨Nat.le_refl _, ?_⟩, ?_⟩
          · intro attempt hAttempt
            rw [List.mem_singleton.1 hAttempt]
            exact hTorn.2
          · exact fun attempt hAttempt => hFirst attempt hAttempt hTorn
        · obtain ⟨whole, cut, silent, rfl, hWhole, hCut, hSilent⟩ :=
            ih (fun attempt hAttempt => hWithin attempt (List.mem_cons_of_mem _ hAttempt)) hRest
          refine ⟨first :: whole, cut, silent, rfl, ?_, hCut, hSilent⟩
          intro attempt hAttempt
          rcases List.mem_cons.1 hAttempt with rfl | hAttempt
          · have hLe := hWithin attempt List.mem_cons_self
            unfold Attempt.Torn at hTorn
            unfold Attempt.Whole
            omega
          · exact hWhole attempt hAttempt

end Watch

end ConfigExchange
