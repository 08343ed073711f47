import ConfigExchange.Exchange.Requesting
import ConfigExchange.Exchange.Serving
import ConfigExchange.Proofs.Cluster.Deed

/-! Whoever exchanges messages on a connection: sends, requests, answers and servings. A step of any
of them is a step of the message that it sends, or it leaves all sessions alone. -/
namespace ConfigExchange

open Cluster

/-- The writer that a transmission has. -/
def Transmission.writer? : Transmission → Option SessionId
  | acquiring writer _ | flushing writer => some writer
  | starting .. | finished _ => none

/-- Whether a transmission is on a connection, as far as it is not known by its writer. -/
def Transmission.IsOn (index : Nat) : Transmission → Prop
  | starting connection _ => connection = index
  | _ => True

namespace Delivery

/-- The message that is being sent. -/
def transmission? : Delivery → Option Transmission
  | sending _ transmission => some transmission
  | starting .. | finished .. => none

def IsOn (index : Nat) : Delivery → Prop
  | starting sender _ => sender.connection = index
  | sending _ transmission => transmission.IsOn index
  | finished .. => True

end Delivery

/-- One who exchanges messages on a connection. -/
inductive Exchange where
  | sending (delivery : Delivery)
  | requesting (requesting : Requesting)
  | answering (answering : Answering)
  | serving (serving : Serving)

namespace Exchange

def step (cluster : Cluster) : Exchange → Option (Exchange × Cluster)
  | sending delivery => (delivery.step cluster).map fun next => (sending next.1, next.2)
  | requesting request => (request.step cluster).map fun next => (requesting next.1, next.2)
  | answering answer => (answer.step cluster).map fun next => (answering next.1, next.2)
  | serving server => (server.step cluster).map fun next => (serving next.1, next.2)

/-- Ends the exchange where it is. -/
def drop (cluster : Cluster) : Exchange → Cluster
  | sending delivery => delivery.drop cluster
  | requesting request => request.drop cluster
  | answering answer => answer.drop cluster
  | serving server => server.drop cluster

/-- The message that is being sent. -/
def transmission? : Exchange → Option Transmission
  | sending delivery => delivery.transmission?
  | requesting request =>
    match request.stage with
    | .sending transmission => some transmission
    | _ => none
  | answering answer =>
    match answer with
    | .replying delivery => delivery.transmission?
    | _ => none
  | serving server =>
    match server.stage with
    | .replying delivery => delivery.transmission?
    | _ => none

/-- The writer of the message that is being sent. -/
def writer? (exchange : Exchange) : Option SessionId := exchange.transmission?.bind (·.writer?)

theorem writer?_of_transmission? {exchange : Exchange} {transmission : Transmission}
    (hTransmission : exchange.transmission? = some transmission) :
    exchange.writer? = transmission.writer? := by
  rw [writer?, hTransmission]
  rfl

/-- Whether a frame is being read. -/
def isReading : Exchange → Bool
  | requesting request =>
    match request.stage with
    | .reading _ => true
    | _ => false
  | serving server =>
    match server.stage with
    | .reading _ => true
    | _ => false
  | sending _ | answering _ => false

/-- Whether an exchange is on a connection. -/
def IsOn (index : Nat) : Exchange → Prop
  | sending delivery => delivery.IsOn index
  | requesting request =>
    request.connection = index ∧
      match request.stage with
      | .sending transmission => transmission.IsOn index
      | _ => True
  | answering answer =>
    match answer with
    | .starting place _ => place = index
    | .replying delivery => delivery.IsOn index
    | .finished _ => True
  | serving server =>
    server.connection = index ∧
      match server.stage with
      | .replying delivery => delivery.IsOn index
      | _ => True

/-! ### What a step does -/

/-- What is asked of a site for a frame that came in. -/
def asked (connection : Connection) (payload : Bytes) : List Deed :=
  match Message.decode connection.version payload with
  | .ok (.configurationRequest _ groups) => [.ask connection.site true groups]
  | _ => []

/-- A read that brings something. -/
def reads (cluster : Cluster) (inlet : Inlet) (reading : FrameReading) : List Deed :=
  match inlet.read cluster.channels reading.missing with
  | (.pending, _, _) => []
  | (_, _, channels) => [.around cluster.now cluster.sources channels]

/-- What a step does that sends nothing. -/
def aside (cluster : Cluster) : Exchange → List Deed
  | sending _ => []
  | requesting request =>
    match cluster.connections[request.connection]?, request.stage with
    | some _, .reading reading => reads cluster request.inlet reading
    | _, _ => []
  | answering answer =>
    match answer with
    | .starting index frame =>
      match cluster.connections[index]? with
      | some connection => asked connection frame
      | none => []
    | _ => []
  | serving server =>
    match cluster.connections[server.connection]?, server.stage with
    | some connection, .reading reading =>
      let answer := (server.inlet.read cluster.channels reading.missing).1
      reads cluster server.inlet reading ++
        match reading.resume connection.maxMessageSize answer with
        | .complete payload => asked connection payload
        | _ => []
    | _, _ => []

/-- What a step does. -/
def deeds (cluster : Cluster) (exchange : Exchange) : List Deed :=
  match exchange.transmission? with
  | some transmission => (transmission.events cluster).map .use
  | none => exchange.aside cluster

/-- The writer that a step opens. -/
def opens (cluster : Cluster) (exchange : Exchange) : List SessionId :=
  match exchange.transmission? with
  | some (.starting ..) => [cluster.sessions.length]
  | _ => []

/-- What is done when an exchange is given up. -/
def dropDeeds (exchange : Exchange) : List Deed :=
  match exchange.transmission? with
  | some transmission => transmission.dropEvents.map .use
  | none => []

end Exchange

namespace Transmission

variable {cluster : Cluster}

theorem enactAll_use {event : Event} (hUse : event.isUse cluster = true) :
    cluster.enact (.use event) = cluster.perform event := by
  simp [Cluster.enact, Deed.events, hUse, Cluster.run]

/-- Who can open a writer has a connection. -/
theorem connection_of_isUse {index : Nat} (hIndex : (Event.openWriter index).isUse cluster = true) :
    ∃ connection, cluster.connections[index]? = some connection := by
  obtain ⟨found, hBind⟩ := Option.isSome_iff_exists.1 hIndex
  obtain ⟨site, hHome, -⟩ := Option.bind_eq_some_iff.1 hBind
  obtain ⟨connection, hConnection, -⟩ := Option.map_eq_some_iff.1 hHome
  exact ⟨connection, hConnection⟩

/-- What a writer does is always possible. -/
theorem enactAll_uses {events : List Event}
    (hUses : ∀ event ∈ events, ∀ cluster, event.isUse cluster = true) :
    cluster.enactAll (events.map .use) = cluster.run events := by
  induction events generalizing cluster with
  | nil => rfl
  | cons event rest ih =>
      show (cluster.enact (.use event)).enactAll (rest.map .use) = _
      rw [enactAll_use (hUses event List.mem_cons_self cluster),
        ih fun other hOther => hUses other (List.mem_cons_of_mem _ hOther)]
      rfl

theorem isUse_of_subject {event : Event} {id : SessionId} (hSubject : event.subject? = some id)
    (cluster : Cluster) : event.isUse cluster = true := by
  cases event <;> first | rfl | cases hSubject

/-- A transmission does what it does when its steps are taken for deeds. -/
theorem enactAll_events {transmission : Transmission} {index : Nat}
    (hOn : transmission.IsOn index) (hIndex : (Event.openWriter index).isUse cluster = true) :
    cluster.enactAll ((transmission.events cluster).map .use) =
      ((transmission.step cluster).map (·.2)).getD cluster := by
  rw [← run_events]
  cases transmission with
  | starting connection message =>
      cases hOn
      exact enactAll_use hIndex
  | acquiring writer message =>
      exact enactAll_uses fun event hEvent =>
        isUse_of_subject (subject_acquiring cluster writer message event hEvent)
  | flushing writer =>
      exact enactAll_uses fun event hEvent =>
        isUse_of_subject (subject_flushing cluster writer event hEvent)
  | finished result => rfl

theorem enactAll_dropEvents (transmission : Transmission) :
    cluster.enactAll (transmission.dropEvents.map .use) = transmission.drop cluster := by
  cases transmission <;> rfl

end Transmission

namespace Exchange

variable {cluster later : Cluster} {exchange next : Exchange} {index : Nat}

theorem enact_ask (site : Nat) (useCache : Bool) (requested : NameSet) :
    cluster.enact (.ask site useCache requested) =
      (cluster.handle site useCache requested).2 := by
  show ({ cluster with sites := _, sources := _ } : Cluster) = _
  unfold Cluster.handle
  split
  · rfl
  · simp only
    cases useCache <;> split <;> rfl

/-- A site is asked for what a frame asks for, and for nothing else. -/
theorem enactAll_asked (connection : Connection) (payload : Bytes) :
    cluster.enactAll (asked connection payload) =
      match Message.decode connection.version payload with
      | .ok (.configurationRequest _ groups) => (cluster.handle connection.site true groups).2
      | _ => cluster := by
  unfold asked
  split
  · exact enact_ask ..
  · rfl

theorem enactAll_reads {inlet : Inlet} {reading : FrameReading} {answer : ReadAnswer} {rest : Inlet}
    {channels : Channels}
    (hRead : inlet.read cluster.channels reading.missing = (answer, rest, channels))
    (hAnswer : answer ≠ .pending) :
    cluster.enactAll (reads cluster inlet reading) = { cluster with channels } := by
  unfold reads
  split
  · next hPending =>
    cases hRead.symm.trans hPending
    exact absurd rfl hAnswer
  · next hFound =>
    cases hRead.symm.trans hFound
    rfl

/-! ### A step is what it does -/

/-- A send does what its transmission does. -/
theorem delivery_later (delivery : Delivery) :
    ((delivery.step cluster).map (·.2)).getD cluster =
      match delivery.transmission? with
      | some transmission => ((transmission.step cluster).map (·.2)).getD cluster
      | none => cluster := by
  cases delivery with
  | starting sender message =>
      simp only [Delivery.step, Delivery.transmission?]
      split
      · rfl
      · split <;> rfl
  | sending sender transmission =>
      cases transmission with
      | finished result => rfl
      | starting | acquiring | flushing =>
          simp only [Delivery.step, Transmission.result?, Delivery.transmission?, Option.map_map]
          rfl
  | finished => rfl

/-- An exchange that sends something does what its send does. -/
theorem enactAll_delivery {delivery : Delivery}
    (hExchange : exchange.transmission? = delivery.transmission?)
    (hAside : exchange.aside cluster = []) (hOn : delivery.IsOn index)
    (hIndex : (Event.openWriter index).isUse cluster = true) :
    cluster.enactAll (exchange.deeds cluster) =
      ((delivery.step cluster).map (·.2)).getD cluster := by
  rw [delivery_later, deeds, hExchange, hAside]
  cases delivery with
  | sending sender transmission => exact Transmission.enactAll_events hOn hIndex
  | starting | finished => rfl

theorem enactAll_requesting {request : Requesting} {connection : Connection}
    (hOn : (requesting request).IsOn index)
    (hConnection : cluster.connections[index]? = some connection)
    (hIndex : (Event.openWriter index).isUse cluster = true) :
    cluster.enactAll ((requesting request).deeds cluster) =
      ((request.step cluster).map (·.2)).getD cluster := by
  obtain ⟨place, inlet, processor, stage⟩ := request
  obtain ⟨rfl, hOn⟩ := hOn
  cases stage with
  | sending transmission =>
      refine (Transmission.enactAll_events hOn hIndex).trans ?_
      simp only [Requesting.step, hConnection, Option.bind_some]
      cases transmission with
      | finished result => rfl
      | starting | acquiring | flushing =>
          simp only [Option.map_map]
          rfl
  | reading reading =>
      simp only [deeds, transmission?, aside, Requesting.step, hConnection, Option.bind_some]
      rcases hRead : inlet.read cluster.channels reading.missing with ⟨answer, rest, channels⟩
      cases answer with
      | pending =>
          rw [reads, hRead]
          rfl
      | data | ended | failed => exact enactAll_reads hRead (by simp)
  | finished result =>
      simp only [Requesting.step, hConnection, Option.bind_some]
      simp only [deeds, transmission?, aside, hConnection]
      rfl

theorem enactAll_answering {answer : Answering} {connection : Connection}
    (hOn : (answering answer).IsOn index)
    (hConnection : cluster.connections[index]? = some connection)
    (hIndex : (Event.openWriter index).isUse cluster = true) :
    cluster.enactAll ((answering answer).deeds cluster) =
      ((answer.step cluster).map (·.2)).getD cluster := by
  cases answer with
  | starting place frame =>
      cases hOn
      simp only [deeds, transmission?, aside, hConnection, Answering.step, Option.map_some]
      rw [enactAll_asked]
      cases Message.decode connection.version frame with
      | error error => rfl
      | ok message => cases message <;> rfl
  | replying delivery =>
      rw [enactAll_delivery rfl rfl hOn hIndex]
      cases delivery with
      | finished => rfl
      | starting | sending =>
          simp only [Answering.step, Option.map_map]
          rfl
  | finished result => rfl

/-- What is made of a read comes after it. -/
theorem enactAll_received {answer : ReadAnswer} {server : Serving} {connection : Connection}
    {reading : FrameReading} {rest : Inlet} {channels : Channels}
    (hRead : server.inlet.read cluster.channels reading.missing = (answer, rest, channels))
    (hAnswer : answer ≠ .pending) (progress : FrameProgress) :
    cluster.enactAll (reads cluster server.inlet reading ++
      match progress with
      | .complete payload => asked connection payload
      | _ => []) = ({ server with inlet := rest }.advance { cluster with channels } connection
        progress).2 := by
  rw [enactAll_append, enactAll_reads hRead hAnswer]
  cases progress with
  | going next => rfl
  | failed error => cases error <;> rfl
  | complete payload =>
      rw [enactAll_asked]
      simp only [Serving.advance, Serving.receive]
      cases Message.decode connection.version payload with
      | error error => rfl
      | ok message => cases message <;> rfl

theorem enactAll_serving {server : Serving} {connection : Connection}
    (hOn : (serving server).IsOn index)
    (hConnection : cluster.connections[index]? = some connection)
    (hIndex : (Event.openWriter index).isUse cluster = true) :
    cluster.enactAll ((serving server).deeds cluster) =
      ((server.step cluster).map (·.2)).getD cluster := by
  obtain ⟨place, inlet, stage⟩ := server
  obtain ⟨rfl, hOn⟩ := hOn
  cases stage with
  | reading reading =>
      simp only [deeds, transmission?, aside, Serving.step, hConnection, Option.bind_some]
      rcases hRead : inlet.read cluster.channels reading.missing with ⟨answer, rest, channels⟩
      have hReceived :=
        @enactAll_received _ _ ⟨place, inlet, .reading reading⟩ connection _ _ _ hRead
      cases answer with
      | pending =>
          rw [reads, hRead]
          cases reading <;> rfl
      | data bytes => exact hReceived (by simp) (reading.resume _ (.data bytes))
      | ended => exact hReceived (by simp) (reading.resume _ .ended)
      | failed error => exact hReceived (by simp) (reading.resume _ (.failed error))
  | replying delivery =>
      rw [enactAll_delivery rfl (by simp only [aside, hConnection]) hOn hIndex]
      simp only [Serving.step, hConnection, Option.bind_some]
      cases delivery with
      | finished sender result =>
          rcases result with error | ⟨_ | ⟨first, members⟩⟩ <;> rfl
      | starting | sending =>
          simp only [Option.map_map]
          rfl
  | finished result =>
      simp only [deeds, transmission?, aside, Serving.step, hConnection, Option.bind_some]
      rfl

/-- What is asked of the cluster in a step of an exchange is what the step does. -/
theorem enactAll_deeds (hOn : exchange.IsOn index)
    (hIndex : (Event.openWriter index).isUse cluster = true) :
    cluster.enactAll (exchange.deeds cluster) =
      ((exchange.step cluster).map (·.2)).getD cluster := by
  obtain ⟨connection, hConnection⟩ := Transmission.connection_of_isUse hIndex
  cases exchange with
  | sending delivery =>
      rw [enactAll_delivery rfl rfl hOn hIndex, step, Option.map_map]
      rfl
  | requesting request =>
      rw [enactAll_requesting hOn hConnection hIndex, step, Option.map_map]
      rfl
  | answering answer =>
      rw [enactAll_answering hOn hConnection hIndex, step, Option.map_map]
      rfl
  | serving server =>
      rw [enactAll_serving hOn hConnection hIndex, step, Option.map_map]
      rfl

/-! ### What can come of a step -/

/-- What comes of a step: the message that is being sent goes on, or there is none, and no session
has anything to do with it. -/
inductive Course (cluster later : Cluster) (exchange next : Exchange) : Prop where
  | sends {transmission after : Transmission} (hBefore : exchange.transmission? = some transmission)
      (hStep : transmission.step cluster = some (after, later))
      (hAfter : next.transmission? = some after)
  | rests (hBefore : exchange.writer? = none)
      (hDeeds : ∀ deed ∈ exchange.deeds cluster, ∀ event, deed ≠ .use event)
      (hOpens : exchange.opens cluster = []) (hAfter : next.writer? = none)

/-- What comes of a step, on the connection that the exchange is on. -/
structure Turn (cluster later : Cluster) (exchange next : Exchange) : Prop where
  course : Course cluster later exchange next
  on : ∀ index, exchange.IsOn index → next.IsOn index

theorem aside_asked (connection : Connection) (payload : Bytes) :
    ∀ deed ∈ asked connection payload, ∀ event, deed ≠ .use event := by
  unfold asked
  split <;> simp

theorem aside_reads (inlet : Inlet) (reading : FrameReading) :
    ∀ deed ∈ reads cluster inlet reading, ∀ event, deed ≠ .use event := by
  unfold reads
  split <;> simp

/-- What is done aside is done to no session. -/
theorem aside_cases (exchange : Exchange) :
    ∀ deed ∈ exchange.aside cluster, ∀ event, deed ≠ .use event := by
  cases exchange with
  | sending => simp [aside]
  | requesting request =>
      simp only [aside]
      split
      · exact aside_reads _ _
      · simp
  | answering answer =>
      simp only [aside]
      split
      · split
        · exact aside_asked _ _
        · simp
      · simp
  | serving server =>
      simp only [aside]
      split
      · intro deed hDeed
        rcases List.mem_append.1 hDeed with hRead | hAsked
        · exact aside_reads _ _ deed hRead
        · split at hAsked
          · exact aside_asked _ _ deed hAsked
          · cases hAsked
      · simp

/-- Nothing is done for a message that is not being sent. -/
theorem Course.of_rests (hBefore : exchange.writer? = none)
    (hStarted : ∀ connection message,
      exchange.transmission? ≠ some (.starting connection message))
    (hAfter : next.writer? = none) : Course cluster later exchange next := by
  have hOpens : exchange.opens cluster = [] := by
    unfold opens
    split
    · next hStarting => exact absurd hStarting (hStarted _ _)
    · rfl
  refine .rests hBefore ?_ hOpens hAfter
  unfold deeds
  split
  · next transmission hTransmission =>
    rw [writer?, hTransmission, Option.bind_some] at hBefore
    cases transmission with
    | starting connection message => exact absurd hTransmission (hStarted _ _)
    | acquiring | flushing => cases hBefore
    | finished => simp [Transmission.events]
  · exact aside_cases exchange

/-- A transmission that has begun is known by its writer. -/
theorem isOn_transmission {transmission after : Transmission}
    (hStep : transmission.step cluster = some (after, later)) : after.IsOn index := by
  cases transmission with
  | starting =>
      cases hStep
      trivial
  | acquiring writer message =>
      simp only [Transmission.step] at hStep
      split at hStep
      · split at hStep <;> cases hStep <;> trivial
      · cases hStep
        trivial
      · obtain ⟨_, -, hNext⟩ := Option.map_eq_some_iff.1 hStep
        cases hNext
        trivial
  | flushing writer =>
      simp only [Transmission.step] at hStep
      split at hStep
      · cases hStep
        trivial
      · obtain ⟨_, -, hNext⟩ := Option.map_eq_some_iff.1 hStep
        cases hNext
        trivial
  | finished => cases hStep

/-- A send stays on its connection, and whoever waits for it does what it does. -/
theorem turn_delivery {delivery after : Delivery}
    (hStep : delivery.step cluster = some (after, later)) :
    (∀ index, delivery.IsOn index → after.IsOn index) ∧
      ∀ {exchange next : Exchange}, exchange.transmission? = delivery.transmission? →
        next.transmission? = after.transmission? → Course cluster later exchange next := by
  have hRests (hSends : ∀ connection message,
      delivery.transmission? ≠ some (.starting connection message))
      (hBefore : delivery.transmission?.bind (·.writer?) = none)
      (hAfter : after.transmission?.bind (·.writer?) = none) {exchange next : Exchange}
      (hExchange : exchange.transmission? = delivery.transmission?)
      (hNext : next.transmission? = after.transmission?) : Course cluster later exchange next :=
    .of_rests (by rw [writer?, hExchange, hBefore]) (hExchange ▸ hSends)
      (by rw [writer?, hNext, hAfter])
  cases delivery with
  | starting sender message =>
      simp only [Delivery.step] at hStep
      split at hStep
      · cases hStep
        exact ⟨fun _ _ => trivial, hRests (by simp [Delivery.transmission?]) rfl rfl⟩
      · split at hStep <;> cases hStep
        · exact ⟨fun _ _ => trivial, hRests (by simp [Delivery.transmission?]) rfl rfl⟩
        · exact ⟨fun _ hOn => hOn, hRests (by simp [Delivery.transmission?]) rfl rfl⟩
  | sending sender transmission =>
      simp only [Delivery.step] at hStep
      split at hStep
      · next result hResult =>
        cases hStep
        cases transmission with
        | finished =>
            exact ⟨fun _ _ => trivial, hRests (by simp [Delivery.transmission?]) rfl rfl⟩
        | starting | acquiring | flushing => cases hResult
      · obtain ⟨⟨then_, last⟩, hThen, hNext⟩ := Option.map_eq_some_iff.1 hStep
        cases hNext
        exact ⟨fun _ _ => isOn_transmission hThen,
          fun hBefore hAfter => .sends hBefore hThen hAfter⟩
  | finished => cases hStep

theorem turn_requesting {request after : Requesting}
    (hStep : request.step cluster = some (after, later)) :
    Turn cluster later (requesting request) (requesting after) := by
  obtain ⟨place, inlet, processor, stage⟩ := request
  obtain ⟨connection, hConnection, hStep⟩ := Option.bind_eq_some_iff.1 hStep
  cases stage with
  | sending transmission =>
      cases transmission with
      | finished result =>
          cases hStep
          refine ⟨.of_rests rfl (by simp [transmission?]) ?_, fun index hOn => ⟨hOn.1, ?_⟩⟩
          · rcases result with ⟨error | error⟩ | _ <;> rfl
          · rcases result with ⟨error | error⟩ | _ <;> trivial
      | starting | acquiring | flushing =>
          obtain ⟨⟨then_, last⟩, hThen, hNext⟩ := Option.map_eq_some_iff.1 hStep
          cases hNext
          exact ⟨.sends rfl hThen rfl, fun index hOn => ⟨hOn.1, isOn_transmission hThen⟩⟩
  | reading reading =>
      simp only at hStep
      split at hStep
      · cases hStep
      · cases hStep
        generalize reading.resume _ _ = progress
        refine ⟨.of_rests rfl (by simp [transmission?]) ?_, fun index hOn => ⟨hOn.1, ?_⟩⟩
        · cases progress <;> rfl
        · cases progress <;> trivial
  | finished => cases hStep

theorem turn_answering {answer after : Answering}
    (hStep : answer.step cluster = some (after, later)) :
    Turn cluster later (answering answer) (answering after) := by
  cases answer with
  | starting index frame =>
      obtain ⟨connection, -, hStep⟩ := Option.map_eq_some_iff.1 hStep
      refine ⟨.of_rests rfl (by simp [transmission?]) ?_, fun place hOn => ?_⟩
      · split at hStep <;> cases hStep <;> rfl
      · split at hStep <;> cases hStep
        · trivial
        · exact hOn
        · trivial
  | replying delivery =>
      cases delivery with
      | finished =>
          cases hStep
          exact ⟨.of_rests rfl (by simp [transmission?, Delivery.transmission?]) rfl,
            fun _ _ => trivial⟩
      | starting | sending =>
          obtain ⟨⟨then_, last⟩, hThen, hNext⟩ := Option.map_eq_some_iff.1 hStep
          cases hNext
          obtain ⟨hKeeps, hCourse⟩ := turn_delivery hThen
          exact ⟨hCourse rfl rfl, hKeeps⟩
  | finished => cases hStep

/-- What comes of a frame sends nothing yet. -/
theorem advance_serving {server : Serving} (hServer : server.connection = index)
    (cluster : Cluster) (connection : Connection) (progress : FrameProgress) :
    (serving (server.advance cluster connection progress).1).writer? = none ∧
      (serving (server.advance cluster connection progress).1).IsOn index := by
  cases progress with
  | going next => exact ⟨rfl, hServer, trivial⟩
  | failed error => cases error <;> exact ⟨rfl, hServer, trivial⟩
  | complete payload =>
      simp only [Serving.advance, Serving.receive]
      split
      · exact ⟨rfl, hServer, hServer⟩
      · exact ⟨rfl, hServer, trivial⟩

theorem turn_serving {server after : Serving}
    (hStep : server.step cluster = some (after, later)) :
    Turn cluster later (serving server) (serving after) := by
  obtain ⟨place, inlet, stage⟩ := server
  obtain ⟨connection, hConnection, hStep⟩ := Option.bind_eq_some_iff.1 hStep
  cases stage with
  | reading reading =>
      simp only at hStep
      split at hStep
      · cases hStep
      · next answer rest channels hAnswer hRead =>
        have hAfter := congrArg (·.map (·.1)) hStep
        simp only [Option.map_some, Option.some_inj] at hAfter
        have hAdvance {index : Nat} (hPlace : place = index) := @advance_serving index
          ⟨place, rest, .reading reading⟩ hPlace { cluster with channels } connection
          (reading.resume connection.maxMessageSize answer)
        rw [hAfter] at hAdvance
        exact ⟨.of_rests rfl (by simp [transmission?]) (hAdvance rfl).1,
          fun index hOn => (hAdvance hOn.1).2⟩
  | replying delivery =>
      cases delivery with
      | finished sender result =>
          rcases result with error | ⟨_ | ⟨first, members⟩⟩ <;> cases hStep <;>
            exact ⟨.of_rests rfl (by simp [transmission?, Delivery.transmission?]) rfl,
              fun index hOn => ⟨hOn.1, trivial⟩⟩
      | starting | sending =>
          obtain ⟨⟨then_, last⟩, hThen, hNext⟩ := Option.map_eq_some_iff.1 hStep
          cases hNext
          obtain ⟨hKeeps, hCourse⟩ := turn_delivery hThen
          exact ⟨hCourse rfl rfl, fun index hOn => ⟨hOn.1, hKeeps index hOn.2⟩⟩
  | finished => cases hStep

/-- What can come of a step. -/
theorem turn_step (hStep : exchange.step cluster = some (next, later)) :
    Turn cluster later exchange next := by
  cases exchange with
  | sending delivery =>
      obtain ⟨⟨after, last⟩, hGoes, hNext⟩ := Option.map_eq_some_iff.1 hStep
      cases hNext
      obtain ⟨hKeeps, hCourse⟩ := turn_delivery hGoes
      exact ⟨hCourse rfl rfl, hKeeps⟩
  | requesting request =>
      obtain ⟨⟨after, last⟩, hGoes, hNext⟩ := Option.map_eq_some_iff.1 hStep
      cases hNext
      exact turn_requesting hGoes
  | answering answer =>
      obtain ⟨⟨after, last⟩, hGoes, hNext⟩ := Option.map_eq_some_iff.1 hStep
      cases hNext
      exact turn_answering hGoes
  | serving server =>
      obtain ⟨⟨after, last⟩, hGoes, hNext⟩ := Option.map_eq_some_iff.1 hStep
      cases hNext
      exact turn_serving hGoes

/-- All that an exchange does to sessions, it does to its writer. -/
theorem subject_deeds {deed : Deed} (hDeed : deed ∈ exchange.deeds cluster) {id : SessionId}
    (hSubject : deed.subject? = some id) : exchange.writer? = some id := by
  unfold deeds at hDeed
  split at hDeed
  · next transmission hTransmission =>
    obtain ⟨event, hEvent, rfl⟩ := List.mem_map.1 hDeed
    rw [writer?, hTransmission, Option.bind_some]
    cases transmission with
    | starting =>
        cases List.mem_singleton.1 hEvent
        cases hSubject
    | acquiring writer message =>
        exact (Transmission.subject_acquiring cluster writer message event hEvent).symm.trans
          hSubject
    | flushing writer =>
        exact (Transmission.subject_flushing cluster writer event hEvent).symm.trans hSubject
    | finished => cases hEvent
  · cases deed with
    | use event => exact absurd rfl (aside_cases exchange _ hDeed event)
    | tell | ask | around => cases hSubject

theorem subject_dropDeeds {deed : Deed} (hDeed : deed ∈ exchange.dropDeeds) {id : SessionId}
    (hSubject : deed.subject? = some id) : exchange.writer? = some id := by
  unfold dropDeeds at hDeed
  split at hDeed
  · next transmission hTransmission =>
    obtain ⟨event, hEvent, rfl⟩ := List.mem_map.1 hDeed
    rw [writer?, hTransmission, Option.bind_some]
    cases transmission with
    | starting | finished => cases hEvent
    | acquiring writer | flushing writer =>
        cases List.mem_singleton.1 hEvent
        exact hSubject
  · cases hDeed

theorem enactAll_dropDeeds (exchange : Exchange) :
    cluster.enactAll exchange.dropDeeds = exchange.drop cluster := by
  have hDelivery {exchange : Exchange} {delivery : Delivery}
      (hExchange : exchange.transmission? = delivery.transmission?) :
      cluster.enactAll exchange.dropDeeds = delivery.drop cluster := by
    rw [dropDeeds, hExchange]
    cases delivery with
    | sending sender transmission => exact Transmission.enactAll_dropEvents transmission
    | starting | finished => rfl
  cases exchange with
  | sending delivery => exact hDelivery rfl
  | requesting request =>
      obtain ⟨place, inlet, processor, stage⟩ := request
      cases stage with
      | sending transmission => exact Transmission.enactAll_dropEvents transmission
      | reading | finished => rfl
  | answering answer =>
      cases answer with
      | replying delivery => exact @hDelivery (answering (.replying delivery)) delivery rfl
      | starting | finished => rfl
  | serving server =>
      obtain ⟨place, inlet, stage⟩ := server
      cases stage with
      | replying delivery =>
          exact @hDelivery (serving ⟨place, inlet, .replying delivery⟩) delivery rfl
      | reading | finished => rfl

end Exchange

end ConfigExchange
