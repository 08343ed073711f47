import ConfigExchange.Proofs.Requesting.Reading
import ConfigExchange.Proofs.Sending.Verdict

/-! What a request comes to, whatever goes on around it. Its answer is read only after it was sent
as a whole. A request that cannot be written, or is too large, is given up before anything is
written or read. -/
namespace ConfigExchange

open Cluster Passage Transmission

/-- A request that was not sent fails with the error of its message. -/
def SendError.toExchange : SendError → ExchangeError
  | encode error => .encode error
  | connection error => .connection error

namespace Requesting

/-- How far a request has come, after its steps. -/
inductive Phase (index : Nat) (base : Connection) (message : Encodable) (processor : UInt32)
    (feed : Feed) (steps : List (Cluster × Cluster)) (cluster : Cluster) : Exchange → Prop where
  | sends {transmission : Transmission}
      (hReached : Reached index base message steps cluster transmission) :
      Phase index base message processor feed steps cluster
        (.requesting ⟨index, .feed feed, processor, .sending transmission⟩)
  | fails {error : SendError}
      (hLength : steps.length ≤ longest index base message (moment steps) + 2)
      (hSettled : Transmission.Settled index base message steps cluster (.error error)) :
      Phase index base message processor feed steps cluster
        (.requesting ⟨index, .feed feed, processor, .finished (.error error.toExchange)⟩)
  | reads {first : Nat} {payload : Bytes} {exchange : Exchange}
      (hPrepare : base.prepare message = .ok payload) (hGains : gains index steps = frame payload)
      (hReads : Reads index base processor feed first steps.length exchange) :
      Phase index base message processor feed steps cluster exchange

variable {cluster : Cluster} {index : Nat} {base : Connection} {message : Encodable}
  {processor : UInt32} {feed : Feed} {steps : List (Cluster × Cluster)} {exchange : Exchange}
  {deed : Deed}

/-- What others do leaves a request where it is. -/
theorem Phase.others (hPhase : Phase index base message processor feed steps cluster exchange)
    (hBears : cluster.Bears index base)
    (hOther : ∀ writer, exchange.writer? = some writer → deed.subject? ≠ some writer) :
    Phase index base message processor feed steps (cluster.enact deed) exchange := by
  cases hPhase with
  | sends hReached => exact .sends (hReached.others hBears hOther)
  | fails hLength hSettled => exact .fails hLength (hSettled.others hBears deed)
  | reads hPrepare hGains hReads => exact .reads hPrepare hGains hReads

/-- What is sent was written as a whole. -/
theorem prepare_of_settled
    (hSettled : Transmission.Settled index base message steps cluster (.ok ())) :
    ∃ payload, base.prepare message = .ok payload ∧ gains index steps = frame payload := by
  generalize hResult : (.ok () : Except SendError Unit) = result at hSettled
  cases hSettled with
  | refused => cases hResult
  | @sent payload outcome hSent =>
      cases outcome with
      | error => cases hResult
      | ok =>
          obtain ⟨hAdmission, hOutcome, -⟩ := hSent.now
          have hTaken := (((moment steps 4).script index).taken_send payload).2
          rw [hOutcome] at hTaken
          exact ⟨payload, prepare_of_admission hAdmission, hTaken rfl⟩

/-- While a request is being sent its steps are those of its message. -/
theorem step_sends (hBears : cluster.Bears index base) {transmission : Transmission}
    (hResult : transmission.result? = none) :
    (Exchange.requesting ⟨index, .feed feed, processor, .sending transmission⟩).step cluster =
      (transmission.step cluster).map fun next =>
        (.requesting ⟨index, .feed feed, processor, .sending next.1⟩, next.2) := by
  obtain ⟨connection, socket, hConnection, -⟩ := hBears.present
  cases transmission with
  | finished => cases hResult
  | starting | acquiring | flushing =>
      simp [Exchange.step, Requesting.step, hConnection, Function.comp_def]

/-- When its message is over a request goes on from what came of it. -/
theorem step_sent (hBears : cluster.Bears index base) (result : Except SendError Unit) :
    (Exchange.requesting ⟨index, .feed feed, processor, .sending (.finished result)⟩).step cluster =
      some (.requesting ⟨index, .feed feed, processor, sent result⟩, cluster) := by
  obtain ⟨connection, socket, hConnection, -⟩ := hBears.present
  simp [Exchange.step, Requesting.step, hConnection]

theorem sent_error (error : SendError) :
    sent (.error error) = .finished (.error error.toExchange) := by
  cases error <;> rfl

/-- A step of a request. -/
theorem Phase.step (hPhase : Phase index base message processor feed steps cluster exchange)
    (hBears : cluster.Bears index base) {next : Exchange} {later : Cluster}
    (hStep : exchange.step cluster = some (next, later)) :
    Phase index base message processor feed (steps ++ [(cluster, later)]) later next := by
  have hCount : (steps ++ [(cluster, later)]).length = steps.length + 1 := by simp
  cases hPhase with
  | @sends transmission hReached =>
      cases hResult : transmission.result? with
      | none =>
          rw [step_sends hBears hResult] at hStep
          obtain ⟨⟨other, after⟩, hOther, hSame⟩ := Option.map_eq_some_iff.1 hStep
          cases hSame
          rcases hReached.proceeds hBears with ⟨result, rfl⟩ | ⟨hNone, -⟩ | ⟨_, _, hNext, hOn⟩
          · cases hResult
          · cases hNone.symm.trans hOther
          · cases hNext.symm.trans hOther
            exact .sends hOn
      | some result =>
          cases hReached with
          | ended hLength hSettled =>
              cases hResult
              cases result with
              | ok =>
                  -- From here on the request only reads.
                  obtain ⟨payload, hPrepare, hGains⟩ := prepare_of_settled hSettled
                  have hSent : Reads index base processor feed steps.length steps.length _ := .sent
                  obtain ⟨rfl, hReads⟩ := hSent.step hBears hStep
                  rw [← hCount] at hReads
                  exact .reads hPrepare ((gains_concat_of_untouched rfl).trans hGains) hReads
              | error error =>
                  rw [step_sent hBears, sent_error] at hStep
                  cases hStep
                  refine .fails ?_ hSettled.concat
                  have hBound := hLength [(cluster, cluster)]
                  rw [hCount]
                  omega
          | _ => cases hResult
  | fails hLength hSettled => cases (step_of_outcome? rfl _).symm.trans hStep
  | reads hPrepare hGains hReads =>
      obtain ⟨rfl, hNext⟩ := hReads.step hBears hStep
      rw [← hCount] at hNext
      exact .reads hPrepare ((gains_concat_of_untouched rfl).trans hGains) hNext

/-! ### Requests that are not sent -/

end Requesting

end ConfigExchange
