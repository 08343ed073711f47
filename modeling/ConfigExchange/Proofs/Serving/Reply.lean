import ConfigExchange.Exchange.Serving
import ConfigExchange.Proofs.Cluster.Errand
import ConfigExchange.Proofs.Locator

/-! Replies as errands. A reply that is served on a connection that nobody else uses is sent step by
step, and the serving then goes on with the next frame, or ends if the reply cannot be sent. -/
namespace ConfigExchange

/-- Why a message that cannot be sent is no reply. -/
def Connection.refusal (connection : Connection) : SendError → ReplyError
  | .encode error => .serialization error
  | .connection error => .io connection.remote error

/-- A message that cannot be sent says nothing of whether its recipient can be reached. -/
theorem Sender.conclude_refused {connection : Connection} {message : Encodable} {error : SendError}
    (hRefused : connection.prepare message = .error error) {sender : Sender}
    (hRecipient : sender.recipient = connection.remote) :
    (sender.conclude (.error error)).1 = .error (connection.refusal error) := by
  unfold Connection.prepare at hRefused
  split at hRefused
  · cases hRefused
    rfl
  · split at hRefused
    · cases hRefused
      simp [Sender.conclude, Connection.refusal, hRecipient]
    · cases hRefused

variable {cluster : Cluster} {index : Nat} {connection : Connection} {site : Site} {errand : Errand}

namespace Delivery

/-- What the sending of a reply has left to do. -/
inductive Stands (cluster : Cluster) (index : Nat) (connection : Connection) (site : Site) :
    Delivery → Errand → Prop where
  | starting {sender : Sender} (message : Encodable) (hSender : sender.connection = index)
      (hFresh : sender.isSent = false) (hRecipient : sender.recipient = connection.remote)
      (hSignal : site.signal.reason = none) (hIdle : cluster.Idle index connection site) :
      Stands cluster index connection site (.starting sender message) (.obtain 5 message)
  | sending {sender : Sender} {transmission : Transmission} {errand : Errand}
      (hRecipient : sender.recipient = connection.remote)
      (hStands : transmission.Stands cluster index connection site errand) :
      Stands cluster index connection site (.sending sender transmission) errand.later
  | finished {sender : Sender} (result : Except SendError Unit)
      (hRecipient : sender.recipient = connection.remote)
      (hIdle : cluster.Idle index connection site) :
      Stands cluster index connection site
        (.finished (sender.conclude result).2 (sender.conclude result).1) (.report 0 result)

theorem Stands.keeps {delivery : Delivery}
    (hStands : delivery.Stands cluster index connection site errand) :
    ∃ holder ready, cluster.Keeps index connection site holder ready := by
  cases hStands with
  | starting message hSender hFresh hRecipient hSignal hIdle => exact ⟨_, _, hIdle⟩
  | sending hRecipient hStands => exact hStands.keeps
  | finished result hRecipient hIdle => exact ⟨_, _, hIdle⟩

/-- Where a reply stands depends on its connection, its site and its writer only. -/
theorem Stands.congr {after : Cluster} {siteNext : Site} {delivery : Delivery}
    (hStands : delivery.Stands cluster index connection site errand)
    (hKeep : ∀ holder ready, cluster.Keeps index connection site holder ready →
      after.Keeps index connection siteNext holder ready)
    (hSignal : siteNext.signal = site.signal)
    (hStages : ∀ id, after.stage? index id = cluster.stage? index id) :
    delivery.Stands after index connection siteNext errand := by
  cases hStands with
  | starting message hSender hFresh hRecipient hRaised hIdle =>
      exact .starting message hSender hFresh hRecipient (hSignal ▸ hRaised) (hKeep _ _ hIdle)
  | sending hRecipient hStands => exact .sending hRecipient (hStands.congr hKeep hStages)
  | finished result hRecipient hIdle => exact .finished result hRecipient (hKeep _ _ hIdle)

theorem step_sending (sender : Sender) {transmission : Transmission}
    (hGoing : transmission.result? = none) :
    (Delivery.sending sender transmission).step cluster =
      (transmission.step cluster).map fun (next, cluster) =>
        (Delivery.sending sender next, cluster) := by
  simp [Delivery.step, hGoing]

/-- A reply on a connection that nobody else uses is kept waiting by its stream, or does a step of
its errand. -/
theorem Stands.step {delivery : Delivery}
    (hStands : delivery.Stands cluster index connection site errand)
    (hGoing : ∀ sender result, delivery ≠ .finished sender result)
    (hObliging : connection.outlet.Obliging cluster.channels) :
    connection.Waits cluster.channels ∧ delivery.step cluster = none ∨
      ∃ next rest channels, Errand.Step 2 connection cluster.channels errand next rest channels ∧
        cluster.Goes index connection.site (delivery.step cluster)
          (fun later after => later.Stands after index next site rest) channels := by
  cases hStands with
  | @starting sender message hSender hFresh hRecipient hSignal hIdle =>
      obtain ⟨pool, hPool, -⟩ := hIdle.place
      refine .inr ⟨_, _, _, .obtains 4 message, _, cluster, ?_,
        .sending hRecipient (.starting message hIdle), .refl _ _ _, rfl⟩
      simp [Delivery.step, hFresh, hSender, hIdle.here, Cluster.cancelReason, hPool, hSignal]
  | @sending sender transmission errand hRecipient hStands =>
      cases hResult : transmission.result? with
      | some result =>
          cases hStands with
          | finished result hIdle =>
              cases hResult
              refine .inr ⟨_, _, _, .reports 0 result, _, cluster, ?_,
                .finished result hRecipient hIdle, .refl _ _ _, rfl⟩
              simp [Delivery.step, Transmission.result?]
          | _ => cases hResult
      | none =>
          rw [step_sending sender hResult]
          rcases hStands.step hResult hObliging with ⟨hWaits, hNone⟩ |
            ⟨next, rest, channels, hErrand, hGoes⟩
          · exact .inl ⟨hWaits, by rw [hNone]; rfl⟩
          · have hRemote : next.remote = connection.remote := by rw [hErrand.same]
            refine .inr ⟨next, rest.later, channels, hErrand.later, hGoes.map _ ?_⟩
            intro later after hLater
            exact .sending (hRecipient.trans hRemote.symm) hLater
  | finished result hRecipient hIdle => exact absurd rfl (hGoing _ _)

end Delivery

namespace Cluster

variable {holder : Option SessionId} {ready : Pool → Prop}

theorem Keeps.locator? (hKeeps : cluster.Keeps index connection site holder ready) :
    cluster.locator? connection.site =
      some ⟨site.service, site.cache, cluster.sources.map (·.source)⟩ := by
  obtain ⟨pool, hPool, -⟩ := hKeeps.place
  rw [locator?_of_site hPool]

/-- A request changes nothing of a site but its cache. -/
theorem Keeps.handle (hKeeps : cluster.Keeps index connection site holder ready)
    (groups : NameSet) :
    let locator : Locator := ⟨site.service, site.cache, cluster.sources.map (·.source)⟩
    let handled := cluster.handle connection.site true groups
    handled.1 = (locator.answer true groups).outcome ∧
      handled.2.Keeps index connection { site with cache := (locator.keep true groups).cache }
        holder ready ∧
      ∃ found, Handles cluster handled.2 connection.site found (locator.keep true groups).cache := by
  intro locator handled
  obtain ⟨pool, hPool, hCalm, hReady⟩ := hKeeps.place
  obtain ⟨hOutcome, hHandles⟩ := handle_eq hPool hKeeps.locator? true groups
  refine ⟨hOutcome, ⟨?_, hKeeps.opened, pool, hHandles.here, hCalm, hReady⟩, _, hHandles⟩
  rw [hHandles.connections]
  exact hKeeps.here

end Cluster

namespace Serving

variable {delivery : Delivery} (inlet : Inlet)

/-- A reply is served step by step. -/
theorem step_replying (hConnection : cluster.connections[index]? = some connection)
    (hGoing : ∀ sender result, delivery ≠ .finished sender result) :
    (⟨index, inlet, .replying delivery⟩ : Serving).step cluster =
      (delivery.step cluster).map fun (next, cluster) =>
        (⟨index, inlet, .replying next⟩, cluster) := by
  cases delivery with
  | finished sender result => exact absurd rfl (hGoing sender result)
  | starting sender message => simp [step, hConnection]
  | sending sender transmission => simp [step, hConnection]

/-- After a reply the next frame is read. -/
theorem step_replied (hConnection : cluster.connections[index]? = some connection)
    (sender : Sender) :
    (⟨index, inlet, .replying (.finished sender (.ok []))⟩ : Serving).step cluster =
      some (⟨index, inlet, .reading .start⟩, cluster) := by
  simp [step, hConnection]

/-- A reply that cannot be sent ends the serving. -/
theorem step_refused (hConnection : cluster.connections[index]? = some connection)
    (sender : Sender) (error : ReplyError) :
    (⟨index, inlet, .replying (.finished sender (.error error))⟩ : Serving).step cluster =
      some (⟨index, inlet, .finished (.error (.reply error))⟩, cluster) := by
  simp [step, hConnection]

/-- A request is answered with what the site hands out. -/
theorem receive_request {payload : Bytes} {processor : UInt32} {groups : NameSet}
    (hDecode : Message.decode connection.version payload =
      .ok (.configurationRequest processor groups)) (stage : ServingStage)
    (hIdle : (cluster.handle connection.site true groups).2.Idle index connection site)
    (hSignal : site.signal.reason = none) :
    ∃ delivery, (⟨index, inlet, stage⟩ : Serving).receive cluster connection payload =
        (⟨index, inlet, .replying delivery⟩, (cluster.handle connection.site true groups).2) ∧
      delivery.Stands (cluster.handle connection.site true groups).2 index connection site
        (.obtain 5 (Message.configurationResponse processor
          (cluster.handle connection.site true groups).1).encoding) := by
  refine ⟨_, by simp only [receive, hDecode, Cluster.answer]; rfl, ?_⟩
  exact .starting _ rfl rfl rfl hSignal hIdle

end Serving

end ConfigExchange
