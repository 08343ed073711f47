import ConfigExchange.Proofs.Cluster.Reply
import ConfigExchange.Proofs.Sending.Verdict

/-! The answer to a reply, whatever goes on around it. Cancellation comes first, then whether the
connection is closed, then the lock and a buffer, then what the message is written as, and at last
the first call of the socket that fails. -/
namespace ConfigExchange

open Cluster Passage Transmission

/-- Why everything at a site is cancelled, if it is. -/
def Cluster.reason? (cluster : Cluster) (site : Nat) : Option String :=
  cluster.sites[site]?.bind (·.signal.reason)

/-- The answer to a reply whose message has come to this: the members that were not reached, or the
error. -/
def Connection.answer (connection : Connection) :
    Except SendError Unit → Except ReplyError (List Member)
  | .ok () => .ok []
  | .error (.encode error) => .error (.serialization error)
  | .error (.connection (.closed _)) => .ok [connection.remote]
  | .error (.connection (.unreachable ..)) => .ok [connection.remote]
  | .error (.connection error) => .error (.io connection.remote error)

/-- How an attempt to send a reply has ended, if it has. -/
def Exchange.reply? : Exchange → Option (Sender × Except ReplyError (List Member))
  | sending (.finished sender answer) => some (sender, answer)
  | _ => none

theorem Exchange.eq_of_reply? {exchange : Exchange} {last : Sender}
    {answer : Except ReplyError (List Member)} (hReply : exchange.reply? = some (last, answer)) :
    exchange = sending (.finished last answer) := by
  unfold reply? at hReply
  split at hReply
  · cases hReply
    rfl
  · cases hReply

namespace Delivery

/-- The payload of a reply that gets as far as the socket, or what it is answered without. At the
first moment it is looked whether everything is being cancelled. -/
def attempt (index : Nat) (base : Connection) (message : Encodable) (moment : Nat → Cluster) :
    Except (Except ReplyError (List Member)) Bytes :=
  match (moment 0).reason? base.site with
  | some reason => .error (.error (.cancelled reason))
  | none =>
    (admission index base message fun count => moment (count + 1)).mapError fun error =>
      base.answer (.error error)

/-- What a reply has come to, when it is answered after these steps. -/
structure Returned (index : Nat) (base : Connection) (message : Encodable)
    (steps : List (Cluster × Cluster)) (cluster : Cluster)
    (answer : Except ReplyError (List Member)) : Prop where
  /-- Without a payload to send, nothing is asked of the socket. -/
  early : ∀ due, attempt index base message (moment steps) = .error due →
    answer = due ∧ Untouched index steps ∧ gains index steps = []
  /-- Nobody gives up before the time is over. -/
  patient : (moment steps 0).reason? base.site = none → ∀ error,
    admission index base message (fun count => moment steps (count + 1)) = .error error →
      Patient base (fun count => moment steps (count + 1)) error
  /-- Of the frame the socket takes what its script lets it take, in one piece. -/
  written : ∀ payload, attempt index base message (moment steps) = .ok payload →
    let sent := ((moment steps 5).script index).send payload
    (message base.version).result = .ok payload ∧ payload.length ≤ base.maxMessageSize ∧
      answer = base.answer (sent.1.mapError base.failure) ∧ gains index steps = sent.2 ∧
      (answer = .ok [] → gains index steps = frame payload) ∧
      (moment steps 5).accepted index ++ gains index steps <+: cluster.accepted index

/-- How far an attempt to send a reply has come, after its steps. -/
inductive Phase (index : Nat) (base : Connection) (message : Encodable) (sender : Sender) :
    List (Cluster × Cluster) → Cluster → Exchange → Prop where
  | starts {cluster : Cluster} :
      Phase index base message sender [] cluster (.sending (.starting sender message))
  | goes {looks : Cluster × Cluster} {steps : List (Cluster × Cluster)} {cluster : Cluster}
      {transmission : Transmission} (hReason : looks.1.reason? base.site = none)
      (hUntouched : looks.2.outlet? index = looks.1.outlet? index)
      (hReached : Reached index base message steps cluster transmission) :
      Phase index base message sender (looks :: steps) cluster
        (.sending (.sending sender transmission))
  | returns {steps : List (Cluster × Cluster)} {cluster : Cluster} {last : Sender}
      {answer : Except ReplyError (List Member)}
      (hLength : steps.length ≤
        longest index base message (fun count => moment steps (count + 1)) + 3)
      (hSent : last.isSent = true ↔ answer = .ok [])
      (hReported : last.hasReportedFailure = true ↔
        sender.hasReportedFailure = true ∨ answer = .ok [base.remote])
      (hReturned : Returned index base message steps cluster answer) :
      Phase index base message sender steps cluster (.sending (.finished last answer))

end Delivery

/-- Whether an error speaks of nobody but the other end of a connection. -/
def Connection.Concerns (connection : Connection) : SendError → Prop
  | .connection (.closed member) => member = connection.remote
  | .connection (.unreachable member _) => member = connection.remote
  | _ => True

theorem Connection.concerns_failure (connection : Connection) (error : IoError) :
    connection.Concerns (connection.failure error) := by
  unfold failure
  split
  · rfl
  · trivial

theorem Transmission.concerns_admission {index : Nat} {base : Connection} {message : Encodable}
    {moment : Nat → Cluster} {error : SendError}
    (hRefused : admission index base message moment = .error error) : base.Concerns error := by
  have hError {first : SendError} (hEq : .error first = (.error error : Except SendError Bytes))
      (hFirst : base.Concerns first) : base.Concerns error := by
    cases hEq
    exact hFirst
  unfold admission at hRefused
  simp only at hRefused
  repeat' split at hRefused
  · exact hError hRefused rfl
  · exact hError hRefused trivial
  · exact hError hRefused rfl
  · exact hError hRefused trivial
  · exact hError hRefused trivial
  · rcases base.prepare_cases message with ⟨error, hPrepare⟩ | ⟨length, limit, hPrepare⟩ | hPrepare
    · exact hError (hPrepare.symm.trans hRefused) trivial
    · exact hError (hPrepare.symm.trans hRefused) trivial
    · cases hPrepare.symm.trans hRefused

/-- Whatever a message comes to, nobody but the other end is found unreachable. -/
theorem Transmission.Settled.concerns {index : Nat} {base : Connection} {message : Encodable}
    {steps : List (Cluster × Cluster)} {cluster : Cluster} {result : Except SendError Unit}
    (hSettled : Transmission.Settled index base message steps cluster result) (error : SendError)
    (hError : result = .error error) : base.Concerns error := by
  cases hSettled with
  | refused hRefused =>
      cases hError
      exact concerns_admission hRefused.now.1
  | @sent _ outcome =>
      cases outcome with
      | ok => cases hError
      | error => cases hError; exact base.concerns_failure _

namespace Sender

variable {sender : Sender} {connection : Connection} {result : Except SendError Unit}

/-- What an attempt comes to if it speaks of nobody but the recipient. -/
theorem conclude_eq_answer (hRecipient : sender.recipient = connection.remote)
    (hConcerns : ∀ error, result = .error error → connection.Concerns error) :
    (sender.conclude result).1 = connection.answer result := by
  rcases result with error | ⟨⟩
  · have hError := hConcerns error rfl
    cases error with
    | encode error => rfl
    | connection error =>
        cases error with
        | closed member | unreachable member =>
            have hMember : member = sender.recipient := Eq.trans hError hRecipient.symm
            simp [conclude, Connection.answer, hMember, hRecipient]
        | poolClosed | writerBusy | poolExhausted | messageTooLarge | io =>
            simp [conclude, Connection.answer, hRecipient]
  · rfl

/-- A sender takes note of a success, and of a recipient that was not reached. -/
theorem notes_conclude (hFresh : sender.isSent = false) (result : Except SendError Unit) :
    ((sender.conclude result).2.isSent = true ↔ (sender.conclude result).1 = .ok []) ∧
      ((sender.conclude result).2.hasReportedFailure = true ↔
        sender.hasReportedFailure = true ∨
          (sender.conclude result).1 = .ok [sender.recipient]) := by
  rcases result with error | ⟨⟩
  · cases error with
    | encode error => simp [conclude, hFresh]
    | connection error =>
        cases error with
        | closed member | unreachable member =>
            by_cases hMember : member = sender.recipient
            · simp [conclude, hMember, hFresh]
            · simp [conclude, hMember, hFresh]
        | poolClosed | writerBusy | poolExhausted | messageTooLarge | io =>
            simp [conclude, hFresh]
  · simp [conclude]

end Sender

/-- Only a message that was sent is answered with nobody. -/
theorem Connection.answer_eq_nil {connection : Connection} {result : Except SendError Unit}
    (hAnswer : connection.answer result = .ok []) : result = .ok () := by
  unfold answer at hAnswer
  split at hAnswer
  · rfl
  all_goals cases hAnswer

namespace Delivery

variable {cluster : Cluster} {index : Nat} {base : Connection} {message : Encodable}
  {sender : Sender} {steps : List (Cluster × Cluster)} {exchange : Exchange} {deed : Deed}

/-! ### What an attempt comes to -/

theorem Returned.others {answer : Except ReplyError (List Member)}
    (hReturned : Returned index base message steps cluster answer)
    (hBears : cluster.Bears index base) (deed : Deed) :
    Returned index base message steps (cluster.enact deed) answer := by
  refine ⟨hReturned.early, hReturned.patient, fun payload hPayload => ?_⟩
  obtain ⟨hResult, hSize, hAnswer, hGains, hWhole, hStream⟩ := hReturned.written payload hPayload
  exact ⟨hResult, hSize, hAnswer, hGains, hWhole, hStream.trans (hBears.enact deed).2⟩

/-- Nothing is done for a reply when everything is being cancelled. -/
theorem returned_of_cancelled {reason : String}
    (hReason : cluster.reason? base.site = some reason) :
    Returned index base message [(cluster, cluster)] cluster (.error (.cancelled reason)) := by
  have hAttempt : attempt index base message (moment [(cluster, cluster)]) =
      .error (.error (.cancelled reason)) := by
    unfold attempt
    rw [show moment [(cluster, cluster)] 0 = cluster from rfl, hReason]
  have hUntouched : Untouched index [(cluster, cluster)] := by
    intro step hStep
    cases List.mem_singleton.1 hStep
    rfl
  refine ⟨fun due hDue => ?_, fun hNone => ?_, fun payload hPayload => ?_⟩
  · cases hAttempt.symm.trans hDue
    exact ⟨rfl, hUntouched, hUntouched.gains_eq⟩
  · cases hReason.symm.trans hNone
  · cases hAttempt.symm.trans hPayload

/-- The first step of an attempt only looks around. -/
theorem attempt_cons {looks : Cluster × Cluster} (hReason : looks.1.reason? base.site = none) :
    attempt index base message (moment (looks :: steps)) =
      (admission index base message (moment steps)).mapError fun error =>
        base.answer (.error error) := by
  unfold attempt
  rw [show moment (looks :: steps) 0 = looks.1 from rfl, hReason]
  rfl

theorem gains_cons {looks : Cluster × Cluster}
    (hUntouched : looks.2.outlet? index = looks.1.outlet? index) :
    gains index (looks :: steps) = gains index steps := by
  have hLooks : gains index [looks] = [] :=
    Untouched.gains_eq (List.forall_mem_singleton.2 hUntouched)
  rw [← List.singleton_append, gains, List.flatMap_append, ← gains, hLooks, List.nil_append,
    gains]

/-- A reply is answered with what its message came to. -/
theorem returned_of_settled {looks : Cluster × Cluster} {result : Except SendError Unit}
    (hReason : looks.1.reason? base.site = none)
    (hUntouched : looks.2.outlet? index = looks.1.outlet? index)
    (hSettled : Transmission.Settled index base message steps cluster result) :
    Returned index base message (looks :: steps) cluster (base.answer result) := by
  have hMoment : (fun count => moment (looks :: steps) (count + 1)) = moment steps := rfl
  have hAttempt : attempt index base message (moment (looks :: steps)) = _ := attempt_cons hReason
  cases hSettled with
  | refused hRefused hStill =>
      obtain ⟨hAdmission, hPatient⟩ := hRefused.now
      rw [hAdmission] at hAttempt
      have hAll : Untouched index (looks :: steps) := List.forall_mem_cons.2 ⟨hUntouched, hStill⟩
      refine ⟨fun due hDue => ?_, fun _ error hError => ?_, fun payload hPayload => ?_⟩
      · cases hAttempt.symm.trans hDue
        exact ⟨rfl, hAll, hAll.gains_eq⟩
      · rw [hMoment] at hError ⊢
        cases hAdmission.symm.trans hError
        exact hPatient
      · cases hAttempt.symm.trans hPayload
  | @sent payload outcome hSent =>
      obtain ⟨hAdmission, hOutcome, hStream⟩ := hSent.now
      rw [hAdmission] at hAttempt
      refine ⟨fun due hDue => ?_, fun _ error hError => ?_, fun other hPayload => ?_⟩
      · cases hAttempt.symm.trans hDue
      · rw [hMoment, hAdmission] at hError
        cases hError
      · cases hAttempt.symm.trans hPayload
        obtain ⟨hResult, hSize⟩ := Connection.of_prepare_eq_ok (prepare_of_admission hAdmission)
        have hScript : ((moment (looks :: steps) 5).script index).send payload =
            (outcome, gains index steps) := hOutcome
        have hTaken := ((moment steps 4).script index).taken_send payload
        rw [hOutcome] at hTaken
        rw [hScript, gains_cons hUntouched]
        refine ⟨hResult, hSize, rfl, rfl, fun hNobody => hTaken.2 ?_, hStream⟩
        have hOk := Connection.answer_eq_nil hNobody
        cases outcome with
        | ok => rfl
        | error => cases hOk

/-! ### Moves of an attempt -/

/-- What others do leaves an attempt where it is. -/
theorem Phase.others (hPhase : Phase index base message sender steps cluster exchange)
    (hBears : cluster.Bears index base)
    (hOther : ∀ writer, exchange.writer? = some writer → deed.subject? ≠ some writer) :
    Phase index base message sender steps (cluster.enact deed) exchange := by
  cases hPhase with
  | starts => exact .starts
  | goes hReason hUntouched hReached =>
      exact .goes hReason hUntouched (hReached.others hBears hOther)
  | returns hLength hSent hReported hReturned =>
      exact .returns hLength hSent hReported (hReturned.others hBears deed)

/-- When its message is over an attempt is answered. -/
theorem Phase.concludes {looks : Cluster × Cluster} {result : Except SendError Unit}
    (hReason : looks.1.reason? base.site = none)
    (hUntouched : looks.2.outlet? index = looks.1.outlet? index)
    (hLength : Lasting steps fun moment =>
      steps.length ≤ longest index base message moment + 1)
    (hSettled : Transmission.Settled index base message steps cluster result)
    (hRecipient : sender.recipient = base.remote) (hFresh : sender.isSent = false) :
    ∃ next, (Exchange.sending (.sending sender (.finished result))).step cluster =
        some (next, cluster) ∧
      Phase index base message sender (looks :: steps ++ [(cluster, cluster)]) cluster next := by
  have hAnswer := Sender.conclude_eq_answer hRecipient hSettled.concerns
  obtain ⟨hSent, hReported⟩ := sender.notes_conclude hFresh result
  rw [hAnswer] at hSent hReported
  rw [hRecipient] at hReported
  refine ⟨.sending (.finished (sender.conclude result).2 (base.answer result)),
    by rw [← hAnswer]; rfl, .returns ?_ hSent hReported
      (returned_of_settled hReason hUntouched hSettled.concat)⟩
  have hBound := hLength [(cluster, cluster)]
  show (steps ++ [(cluster, cluster)]).length + 1 ≤
    longest index base message (moment (steps ++ [(cluster, cluster)])) + 3
  rw [List.length_append, List.length_singleton]
  omega

/-- An attempt that has not ended goes on, or its message has something to wait for. -/
theorem Phase.proceeds (hPhase : Phase index base message sender steps cluster exchange)
    (hBears : cluster.Bears index base) (hPlace : sender.connection = index)
    (hRecipient : sender.recipient = base.remote) (hFresh : sender.isSent = false) :
    exchange.reply?.isSome = true ∨
      (exchange.step cluster = none ∧
        Waits index base (fun count => moment steps (count + 1)) cluster (steps.length - 1)) ∨
      ∃ next later, exchange.step cluster = some (next, later) ∧
        Phase index base message sender (steps ++ [(cluster, later)]) later next := by
  obtain ⟨connection, socket, hConnection, hOutlet, hBase⟩ := hBears.present
  have hSite : connection.site = base.site := by rw [hBase]
  have hLooks : cluster.connections[index]?.bind cluster.cancelReason =
      cluster.reason? base.site := by
    rw [hConnection, Option.bind_some, cancelReason, hSite, reason?]
  cases hPhase with
  | starts =>
      refine .inr (.inr ?_)
      cases hReason : cluster.reason? base.site with
      | some reason =>
          refine ⟨.sending (.finished sender (.error (.cancelled reason))), cluster, ?_, ?_⟩
          · simp [Exchange.step, step, hFresh, hPlace, hLooks, hReason]
          · refine .returns ?_ (by simp [hFresh]) (by simp) (returned_of_cancelled hReason)
            rw [List.nil_append, List.length_singleton]
            exact Nat.le_add_left _ _
      | none =>
          refine ⟨.sending (.sending sender (.starting index message)), cluster, ?_,
            .goes hReason rfl .begins⟩
          simp [Exchange.step, step, hFresh, hPlace, hLooks, hReason]
  | @goes looks made _ transmission hReason hUntouched hReached =>
      -- A step of the message, or the answer once the message is over.
      refine .inr ?_
      cases hResult : transmission.result? with
      | none =>
          have hStep : (Exchange.sending (.sending sender transmission)).step cluster =
              (transmission.step cluster).map fun next =>
                (.sending (.sending sender next.1), next.2) := by
            simp [Exchange.step, step, hResult, Function.comp_def]
          rcases hReached.proceeds hBears with
            ⟨result, rfl⟩ | ⟨hNone, hWaits⟩ | ⟨next, later, hNext, hOn⟩
          · cases hResult
          · exact .inl ⟨by rw [hStep, hNone]; rfl, hWaits⟩
          · exact .inr ⟨_, later, by rw [hStep, hNext]; rfl, .goes hReason hUntouched hOn⟩
      | some result =>
          cases hReached with
          | ended hLength hSettled =>
              cases hResult
              obtain ⟨next, hStep, hNext⟩ :=
                Phase.concludes hReason hUntouched hLength hSettled hRecipient hFresh
              exact .inr ⟨next, cluster, hStep, hNext⟩
          | _ => cases hResult
  | returns => exact .inl rfl

/-- An attempt makes no more steps than it takes to write its frame. -/
theorem Phase.length_le (hPhase : Phase index base message sender steps cluster exchange) :
    steps.length ≤ longest index base message (fun count => moment steps (count + 1)) + 3 := by
  cases hPhase with
  | starts => exact Nat.zero_le _
  | @goes looks made _ _ _ _ hReached =>
      have hBound := hReached.length_le
      show made.length + 1 ≤ longest index base message (moment made) + 3
      omega
  | returns hLength => exact hLength

theorem Phase.returned {last : Sender} {answer : Except ReplyError (List Member)}
    (hPhase : Phase index base message sender steps cluster (.sending (.finished last answer))) :
    Returned index base message steps cluster answer ∧ (last.isSent = true ↔ answer = .ok []) ∧
      (last.hasReportedFailure = true ↔
        sender.hasReportedFailure = true ∨ answer = .ok [base.remote]) := by
  cases hPhase with
  | returns _ hSent hReported hReturned => exact ⟨hReturned, hSent, hReported⟩

/-- A step of an attempt. -/
theorem Phase.step (hPhase : Phase index base message sender steps cluster exchange)
    (hBears : cluster.Bears index base) (hPlace : sender.connection = index)
    (hRecipient : sender.recipient = base.remote) (hFresh : sender.isSent = false)
    {next : Exchange} {later : Cluster} (hStep : exchange.step cluster = some (next, later)) :
    Phase index base message sender (steps ++ [(cluster, later)]) later next := by
  rcases hPhase.proceeds hBears hPlace hRecipient hFresh with
    hEnded | ⟨hNone, -⟩ | ⟨other, after, hNext, hOn⟩
  · obtain ⟨⟨last, answer⟩, hReply⟩ := Option.isSome_iff_exists.1 hEnded
    rw [Exchange.eq_of_reply? hReply] at hStep
    cases hStep
  · cases hNone.symm.trans hStep
  · cases hNext.symm.trans hStep
    exact hOn

/-- Among whatever else is done on its connection and around it, an attempt to send a reply comes to
an answer after so many steps at most, unless it waits for the lock or a buffer, while there is
time, or for its socket. Then the answer is the one that is due, the sender has taken note of it,
and the lock and the buffer are given back. -/
theorem answer_due {members : List (Member × Settings)} {member : Member × Settings}
    {past : List Deed} {index : Nat} {base : Connection} {socket : Socket}
    (hConnection : ((ofMembers members).enactAll past).connections[index]? = some base)
    (hOutlet : base.outlet = .socket socket) (hMember : members[base.site]? = some member)
    (message : Encodable) (hasReported : Bool) (moves : List Passage.Move) :
    let sender : Sender :=
      { connection := index, recipient := base.remote, hasReportedFailure := hasReported }
    let passage :=
      (start ((ofMembers members).enactAll past) index (.send sender message)).run moves
    let exchange := passage.affair.exchange
    let moments := fun count => moment passage.steps (count + 1)
    (∀ last answer, exchange.reply? = some (last, answer) →
      Returned index base message passage.steps passage.cluster answer ∧
        (last.isSent = true ↔ answer = .ok []) ∧
        (last.hasReportedFailure = true ↔ hasReported = true ∨ answer = .ok [base.remote]) ∧
        ∀ writer ∈ passage.affair.writers, passage.cluster.Released index writer) ∧
      (exchange.step passage.cluster = none → exchange.reply?.isSome = true ∨
        Waits index base moments passage.cluster (passage.steps.length - 1)) ∧
      passage.steps.length ≤ longest index base message moments + 3 := by
  intro sender passage exchange moments
  have hStart := sound_start hConnection hOutlet hMember (.send sender message)
  have hSound := hStart.run moves
  have hPhase : Phase index base message sender passage.steps passage.cluster exchange :=
    hStart.run_induction
      (fun _ _ _ _ _ hBears hPhase => hPhase.step hBears rfl rfl rfl)
      (fun _ _ _ _ hBears hPhase => hPhase.others hBears) .starts moves
  refine ⟨fun last answer hReply => ?_, fun hNone => ?_, hPhase.length_le⟩
  · have hEnds := Exchange.eq_of_reply? hReply
    have hNone : passage.affair.exchange.writer? = none := congrArg Exchange.writer? hEnds
    rw [hEnds] at hPhase
    obtain ⟨hReturned, hSent, hReported⟩ := hPhase.returned
    exact ⟨hReturned, hSent, hReported, fun _ hWriter => hSound.released hNone hWriter⟩
  · rcases hPhase.proceeds hSound.bears rfl rfl rfl with hEnded | ⟨-, hWaits⟩ | ⟨_, _, hStep, -⟩
    · exact .inl hEnded
    · exact .inr hWaits
    · cases hNone.symm.trans hStep

/-- The stream breaks after two bytes of the header, while another writer waits for the lock. -/
theorem answer_due_when_broken :
    let members : List (Member × Settings) := [(Replying.peer, { poolSize := 1 })]
    let socket : Socket := { script := { writes := [.accept 2, .fail .connectionReset] } }
    let past : List Deed :=
      [.use (.connect 0 Replying.peer .v2 (.socket socket)), .use (.openWriter 0)]
    let base : Connection :=
      { site := 0, remote := Replying.peer, version := .v2, outlet := .socket socket,
        acquireTimeout := 5000000, maxMessageSize := 10485760 }
    let sender : Sender :=
      { connection := 0, recipient := base.remote, hasReportedFailure := false }
    let message : Encodable := fun _ => ⟨[[7], [8]], none⟩
    let moves : List Passage.Move := List.replicate 3 .go ++ [.other (.use (.step 0))] ++
      List.replicate 7 .go
    let passage := (start ((ofMembers members).enactAll past) 0 (.send sender message)).run moves
    ((ofMembers members).enactAll past).connections[0]? = some base ∧
      passage.affair.exchange.reply? =
        some ({ sender with hasReportedFailure := true }, .ok [Replying.peer]) ∧
      gains 0 passage.steps = [0, 0] ∧ passage.cluster.Released 0 1 := by
  intro members socket past base sender message moves passage
  have hConnection : ((ofMembers members).enactAll past).connections[0]? = some base := rfl
  have hMember : members[0]? = some (Replying.peer, { poolSize := 1 }) := rfl
  obtain ⟨hAnswered, -⟩ := answer_due hConnection rfl hMember message false moves
  generalize hRun : (start ((ofMembers members).enactAll past) 0 (.send sender message)).run moves =
    later at hAnswered
  have hPassage : passage = later := hRun
  have hReply : later.affair.exchange.reply? =
      some ({ sender with hasReportedFailure := true }, .ok [Replying.peer]) := by
    rw [← hPassage]
    decide +kernel
  obtain ⟨hReturned, -, -, hReleased⟩ := hAnswered _ _ hReply
  obtain ⟨-, -, -, hGains, -⟩ := hReturned.written [7, 8] (by rw [← hPassage]; decide +kernel)
  rw [hPassage]
  refine ⟨hConnection, hReply, hGains.trans ?_, hReleased 1 ?_⟩
  · rw [← hPassage]
    decide +kernel
  · rw [← hPassage]
    decide +kernel

/-- A connection is closed while a reply waits for its lock, and whoever has the lock keeps it until
the time is over. That the recipient is gone is not found out then. -/
theorem busy_though_closed :
    let members : List (Member × Settings) := [(Replying.peer, { acquireTimeout := 10 })]
    let past : List Deed := [.use (.connect 0 Replying.peer .v2 (.socket {})), .use (.openWriter 0),
      .use (.step 0), .use (.step 0)]
    let sender : Sender := { connection := 0, recipient := Replying.peer }
    let message : Encodable := fun _ => ⟨[[7]], none⟩
    let moves : List Passage.Move := [.go, .go, .go, .other (.use (.close 0)),
      .other (.use (.step 2)), .other (.around 10 [] {}), .go, .go, .go]
    let passage := (start ((ofMembers members).enactAll past) 0 (.send sender message)).run moves
    (moment passage.steps 2).isClosed 0 = false ∧ (moment passage.steps 3).isClosed 0 = true ∧
      passage.affair.exchange.reply? =
        some (sender, .error (.io Replying.peer (.writerBusy Replying.peer 10))) ∧
      passage.affair.exchange.reply?.map (·.2) ≠ some (.ok [Replying.peer]) := by
  decide +kernel

end Delivery

end ConfigExchange
