import ConfigExchange.Proofs.Dialogue.Party
import ConfigExchange.Proofs.Message

/-! A line between a requester and a locator, over which one call follows the other. In a call the
request passes to the locator, and then the response to the requester. -/
namespace ConfigExchange

/-- A channel between a requester and a locator. Each has a connection over it, and a site of its
own. -/
structure Line where
  channel : Nat
  capacity : Nat
  requester : Nat
  server : Nat
  near : Connection
  far : Connection
  room : 0 < capacity
  nearOutlet : near.outlet = .channel channel .dialer
  farOutlet : far.outlet = .channel channel .acceptor
  version : near.version = far.version
  connections : requester ≠ server
  sites : near.site ≠ far.site

/-- A call that was made, and what a call of the locator itself would have answered then. -/
structure Question where
  processor : UInt32
  groups : NameSet
  due : Outcome

namespace Question

def request (question : Question) : Message :=
  .configurationRequest question.processor question.groups

def response (question : Question) : Message :=
  .configurationResponse question.processor question.due

end Question

/-- Calls of a requester to a locator that serves them: the calls that were made, what came of those
that are over, and the one that is not. -/
structure Dialogue where
  cluster : Cluster
  serving : Serving
  call : Option Requesting := none
  asked : List Question := []
  results : List (Except ExchangeError Outcome) := []

/-- One step of the requester or of the server. -/
inductive Dialogue.Step : Dialogue → Dialogue → Prop where
  | requests {cluster after : Cluster} {serving : Serving} {requesting next : Requesting}
      {asked : List Question} {results : List (Except ExchangeError Outcome)}
      (hStep : requesting.step cluster = some (next, after)) :
      Step ⟨cluster, serving, some requesting, asked, results⟩
        ⟨after, serving, some next, asked, results⟩
  | returns {cluster : Cluster} {serving : Serving} {requesting : Requesting}
      {asked : List Question} {results : List (Except ExchangeError Outcome)}
      {result : Except ExchangeError Outcome} (hResult : requesting.result? = some result) :
      Step ⟨cluster, serving, some requesting, asked, results⟩
        ⟨cluster, serving, none, asked, results ++ [result]⟩
  | serves {cluster after : Cluster} {serving next : Serving} {call : Option Requesting}
      {asked : List Question} {results : List (Except ExchangeError Outcome)}
      (hStep : serving.step cluster = some (next, after)) :
      Step ⟨cluster, serving, call, asked, results⟩ ⟨after, next, call, asked, results⟩

/-- So many steps of the parties, in some order. -/
inductive Dialogue.StepsFor : Dialogue → Dialogue → Nat → Prop where
  | zero (dialogue : Dialogue) : StepsFor dialogue dialogue 0
  | succ {first middle final : Dialogue} {steps : Nat} (prior : StepsFor first middle steps)
      (last : middle.Step final) : StepsFor first final (steps + 1)

theorem Dialogue.Step.asked_eq {dialogue next : Dialogue} (hStep : dialogue.Step next) :
    next.asked = dialogue.asked := by
  cases hStep <;> rfl

namespace Line

/-- A dialogue in which nothing was asked yet. -/
def start (line : Line) (cluster : Cluster) : Dialogue where
  cluster
  serving := { connection := line.server, inlet := .channel line.channel .acceptor }

/-- What else can happen. When no call is under way one is made, or the locator's service and the
sources become whatever is done with them. Time passes whenever it likes. -/
inductive Event (line : Line) : Dialogue → Dialogue → Prop where
  | asks {cluster : Cluster} {serving : Serving} {asked : List Question}
      {results : List (Except ExchangeError Outcome)} (processor : UInt32) (groups : NameSet) :
      Event line ⟨cluster, serving, none, asked, results⟩
        ⟨cluster, serving,
          some (.start line.requester (.channel line.channel .dialer) processor groups),
          asked ++ [⟨processor, groups, (cluster.handle line.far.site true groups).1⟩], results⟩
  | changes {cluster : Cluster} {serving : Serving} {asked : List Question}
      {results : List (Except ExchangeError Outcome)} (service : Service Nat)
      (sources : List SourceRecord) :
      Event line ⟨cluster, serving, none, asked, results⟩
        ⟨{ cluster.modifySite line.far.site fun site => { site with service } with sources }, serving,
          none, asked, results⟩
  | passes {cluster : Cluster} {serving : Serving} {call : Option Requesting}
      {asked : List Question} {results : List (Except ExchangeError Outcome)} (now : Micros) :
      Event line ⟨cluster, serving, call, asked, results⟩
        ⟨{ cluster with now }, serving, call, asked, results⟩

/-- A run over a line: steps of the parties, and whatever else happens. -/
inductive Runs (line : Line) : Dialogue → Dialogue → Prop where
  | start (dialogue : Dialogue) : Runs line dialogue dialogue
  | step {first middle final : Dialogue} (prior : Runs line first middle)
      (last : middle.Step final) : Runs line first final
  | event {first middle final : Dialogue} (prior : Runs line first middle)
      (last : line.Event middle final) : Runs line first final

/-- The line joins two sites: nobody uses the connections, which are open, each pool has a buffer to
spare, the channel is empty, and the locator is not being cancelled. -/
structure Joins (line : Line) (cluster : Cluster) (home site : Site) : Prop where
  requester : cluster.Idle line.requester line.near home
  server : cluster.Idle line.server line.far site
  channel : cluster.channels[line.channel]? = some (.ofCapacity line.capacity)
  signal : site.signal.reason = none
  cache : Cache.Sane site.cache

variable {line : Line} {home : Site} {cluster after : Cluster} {there back : Bytes}

theorem Event.asked_prefix {dialogue next : Dialogue} (hEvent : line.Event dialogue next) :
    dialogue.asked <+: next.asked := by
  cases hEvent with
  | asks processor groups => exact List.prefix_append _ _
  | changes service sources => exact List.prefix_refl _
  | passes now => exact List.prefix_refl _

/-! ### The ends of the line -/

/-- The end of the requester, when so much is on the way to the locator and back. -/
def nearEnd (line : Line) (there back : Bytes) : ChannelEnd :=
  ⟨line.channel, .dialer, line.capacity, there, back⟩

def farEnd (line : Line) (there back : Bytes) : ChannelEnd :=
  ⟨line.channel, .acceptor, line.capacity, back, there⟩

/-- So much is on the way. -/
def Holds (line : Line) (cluster : Cluster) (there back : Bytes) : Prop :=
  (line.nearEnd there back).At cluster.channels

theorem Holds.congr (hHolds : line.Holds cluster there back)
    (hChannels : after.channels = cluster.channels) : line.Holds after there back := by
  rw [Holds, hChannels]
  exact hHolds

theorem Holds.far (hHolds : line.Holds cluster there back) :
    (line.farEnd there back).At cluster.channels := hHolds

theorem Holds.near_putIn (hHolds : line.Holds cluster there back) {thereNext backNext : Bytes}
    (hChannels : after.channels = (line.nearEnd thereNext backNext).putIn cluster.channels) :
    line.Holds after thereNext backNext := by
  rw [Holds, hChannels]
  exact ChannelEnd.at_putIn hHolds rfl

theorem Holds.far_putIn (hHolds : line.Holds cluster there back) {thereNext backNext : Bytes}
    (hChannels : after.channels = (line.farEnd thereNext backNext).putIn cluster.channels) :
    line.Holds after thereNext backNext :=
  hHolds.near_putIn hChannels

/-- Where the requester stands in a call. -/
abbrev Asks (line : Line) (home : Site) (cluster : Cluster) (processor : UInt32)
    (requesting : Requesting) (duty : Duty) : Prop :=
  requesting.Stands cluster line.requester line.near home (.channel line.channel .dialer) processor
    duty

/-- Where the server stands, and what it works out responses from. -/
structure Serves (line : Line) (cluster : Cluster) (serving : Serving) (duty : Duty)
    (locator : Locator) : Prop where
  sane : Cache.Sane locator.cache
  stands : ∃ site, site.signal.reason = none ∧
    locator = ⟨site.service, site.cache, cluster.sources.map (·.source)⟩ ∧
    serving.Stands cluster line.server line.far site (.channel line.channel .acceptor) duty

variable {processor : UInt32} {requesting requestingNext : Requesting}
  {serving servingNext : Serving}
  {duty giver taker : Duty} {locator : Locator} {payload : Bytes}

/-- A call of the locator itself is answered in the same way. -/
theorem Serves.handle_eq (hServes : line.Serves cluster serving duty locator) (groups : NameSet) :
    (cluster.handle line.far.site true groups).1 = (locator.answer true groups).outcome := by
  obtain ⟨site, -, rfl, hStands⟩ := hServes.stands
  obtain ⟨holder, ready, hKeeps⟩ := hStands.keeps
  exact (hKeeps.handle groups).1

/-! ### Neither party disturbs the other -/

theorem keeps_of_spares {index : Nat} {connection : Connection} {site : Site} {other place : Nat}
    (hSpares : cluster.Spares after other place) (hIndex : index ≠ other)
    (hPlace : connection.site ≠ place) (holder : Option SessionId) (ready : Pool → Prop)
    (hKeeps : cluster.Keeps index connection site holder ready) :
    after.Keeps index connection site holder ready :=
  hKeeps.congr (hSpares.connections _ hIndex) (hSpares.sites _ hPlace)

theorem idle_of_spares (hIdle : cluster.Idle line.requester line.near home)
    (hSpares : cluster.Spares after line.server line.far.site) :
    after.Idle line.requester line.near home :=
  keeps_of_spares hSpares line.connections line.sites _ _ hIdle

theorem Asks.of_spares (hAsks : line.Asks home cluster processor requesting duty)
    (hSpares : cluster.Spares after line.server line.far.site) :
    line.Asks home after processor requesting duty :=
  Requesting.Stands.congr hAsks (keeps_of_spares hSpares line.connections line.sites)
    fun id => hSpares.stages _ id line.connections

theorem Serves.of_spares (hServes : line.Serves cluster serving duty locator)
    (hSpares : cluster.Spares after line.requester line.near.site) :
    line.Serves after serving duty locator := by
  obtain ⟨site, hSignal, hLocator, hStands⟩ := hServes.stands
  refine ⟨hServes.sane, site, hSignal, by rw [hLocator, hSpares.sources], ?_⟩
  exact hStands.congr (keeps_of_spares hSpares line.connections.symm line.sites.symm) rfl
    fun id => hSpares.stages _ id line.connections.symm

/-! ### What a step of a party does -/

theorem Asks.gives (hAsks : line.Asks home cluster processor requesting giver)
    (hPasses : Duty.Passes payload line.near line.far giver taker there)
    (hHolds : line.Holds cluster there [])
    (hStep : requesting.step cluster = some (requestingNext, after)) :
    ∃ next thereNext, Duty.Passes payload line.near line.far next taker thereNext ∧
      Duty.passingCost 1 2 line.near line.far next taker thereNext <
        Duty.passingCost 1 2 line.near line.far giver taker there ∧
      line.Asks home after processor requestingNext next ∧ line.Holds after thereNext [] ∧
      cluster.Spares after line.requester line.near.site := by
  obtain ⟨next, thereNext, hNext, hCost, hStands, hSpares, hChannels⟩ :=
    (Requesting.Stands.acts (line.nearEnd there []) hAsks hPasses.gives line.nearOutlet
      hHolds).of_giver hPasses rfl hStep
  exact ⟨next, thereNext, hNext, hCost 2, hStands, hHolds.near_putIn hChannels, hSpares⟩

/-- The requester takes, and has its answer when the frame has passed. -/
theorem Asks.takes (hAsks : line.Asks home cluster processor requesting taker)
    (hPasses : Duty.Passes payload line.far line.near giver taker back)
    (hHolds : line.Holds cluster [] back) (hLimit : payload.length ≤ line.near.maxMessageSize)
    (hHeader : payload.length < byteRange headerWidth)
    (hStep : requesting.step cluster = some (requestingNext, after)) :
    (∃ next backNext, Duty.Passes payload line.far line.near giver next backNext ∧
      Duty.passingCost 2 1 line.far line.near giver next backNext <
        Duty.passingCost 2 1 line.far line.near giver taker back ∧
      line.Asks home after processor requestingNext next ∧ line.Holds after [] backNext ∧
      cluster.Spares after line.requester line.near.site) ∨
    (Duty.passingCost 2 1 line.far line.near giver taker back > giver.cost 2 line.far ∧
      giver.due line.far = [] ∧
      requestingNext.stage = .finished (Requesting.accept processor line.near.version payload) ∧
      after.Idle line.requester line.near home ∧ line.Holds after [] [] ∧
      cluster.Spares after line.requester line.near.site) := by
  rcases (Requesting.Stands.acts (line.nearEnd [] back) hAsks hPasses.takes line.nearOutlet
      hHolds).of_taker hPasses rfl hLimit hHeader hStep with
    ⟨next, backNext, hNext, hCost, hStands, hSpares, hChannels⟩ | ⟨reading, rfl, hSome, hDue, hEnd⟩
  · exact .inl ⟨next, backNext, hNext, hCost 2, hStands, hHolds.near_putIn hChannels, hSpares⟩
  · cases hAsks with
    | reading reading hIdle =>
        cases hEnd
        refine .inr ⟨?_, hDue, rfl, hIdle.congr rfl rfl, hHolds.near_putIn rfl,
          ⟨fun _ _ => rfl, fun _ _ => rfl, fun _ _ _ => rfl, rfl⟩⟩
        have hLength : 0 < back.length := List.length_pos_iff.2 hSome
        simp only [Duty.passingCost, Duty.cost, List.length_append]
        omega

theorem Serves.gives (hServes : line.Serves cluster serving giver locator)
    (hPasses : Duty.Passes payload line.far line.near giver taker back)
    (hHolds : line.Holds cluster [] back)
    (hStep : serving.step cluster = some (servingNext, after)) :
    ∃ next backNext, Duty.Passes payload line.far line.near next taker backNext ∧
      Duty.passingCost 2 1 line.far line.near next taker backNext <
        Duty.passingCost 2 1 line.far line.near giver taker back ∧
      line.Serves after servingNext next locator ∧ line.Holds after [] backNext ∧
      cluster.Spares after line.server line.far.site := by
  obtain ⟨site, hSignal, hLocator, hStands⟩ := hServes.stands
  obtain ⟨next, backNext, hNext, hCost, hStandsNext, hSpares, hChannels⟩ :=
    (hStands.acts (line.farEnd [] back) hPasses.gives line.farOutlet hHolds.far).of_giver hPasses rfl
      hStep
  exact ⟨next, backNext, hNext, hCost 1, ⟨hServes.sane, site, hSignal,
    by rw [hLocator, hSpares.sources], hStandsNext⟩, hHolds.far_putIn hChannels, hSpares⟩

/-- The server takes, and takes up what it has read when the frame has passed. -/
theorem Serves.takes (hServes : line.Serves cluster serving taker locator)
    (hPasses : Duty.Passes payload line.near line.far giver taker there)
    (hHolds : line.Holds cluster there []) (hLimit : payload.length ≤ line.far.maxMessageSize)
    (hHeader : payload.length < byteRange headerWidth)
    (hStep : serving.step cluster = some (servingNext, after)) :
    (∃ next thereNext, Duty.Passes payload line.near line.far giver next thereNext ∧
      Duty.passingCost 1 2 line.near line.far giver next thereNext <
        Duty.passingCost 1 2 line.near line.far giver taker there ∧
      line.Serves after servingNext next locator ∧ line.Holds after thereNext [] ∧
      cluster.Spares after line.server line.far.site) ∨
    (∃ reading middle, line.Serves middle serving (.take reading) locator ∧
      Duty.passingCost 1 2 line.near line.far giver taker there > giver.cost 1 line.near ∧
      giver.due line.near = [] ∧ line.Holds middle [] [] ∧
      cluster.Spares middle line.server line.far.site ∧
      (servingNext, after) = Serving.receive
        ⟨line.server, .channel line.channel .acceptor, .reading .start⟩ middle line.far payload) := by
  obtain ⟨site, hSignal, hLocator, hStands⟩ := hServes.stands
  rcases (hStands.acts (line.farEnd there []) hPasses.takes line.farOutlet hHolds.far).of_taker
      hPasses rfl hLimit hHeader hStep with
    ⟨next, thereNext, hNext, hCost, hStandsNext, hSpares, hChannels⟩ |
    ⟨reading, rfl, hSome, hDue, hEnd⟩
  · exact .inl ⟨next, thereNext, hNext, hCost 1, ⟨hServes.sane, site, hSignal,
      by rw [hLocator, hSpares.sources], hStandsNext⟩, hHolds.far_putIn hChannels, hSpares⟩
  · refine .inr ⟨reading, { cluster with channels := (line.farEnd [] []).putIn cluster.channels },
      ⟨hServes.sane, site, hSignal, hLocator, ?_⟩, ?_, hDue,
      hHolds.far_putIn rfl, ⟨fun _ _ => rfl, fun _ _ => rfl, fun _ _ _ => rfl, rfl⟩, hEnd⟩
    · exact hStands.congr (fun _ _ hKeeps => hKeeps.congr rfl rfl) rfl fun _ => rfl
    · have hLength : 0 < there.length := List.length_pos_iff.2 hSome
      simp only [Duty.passingCost, Duty.cost, List.length_append]
      omega

/-- The server ends what it has to do after a response. -/
theorem Serves.rests (hServes : line.Serves cluster serving duty locator)
    (hRests : duty.Rests line.far) (hHolds : line.Holds cluster [] [])
    (hStep : serving.step cluster = some (servingNext, after)) :
    ∃ next : Duty, next.Rests line.far ∧ next.cost 2 line.far < duty.cost 2 line.far ∧
      line.Serves after servingNext next locator ∧ line.Holds after [] [] ∧
      cluster.Spares after line.server line.far.site := by
  obtain ⟨site, hSignal, hLocator, hStands⟩ := hServes.stands
  obtain ⟨next, hNext, hCost, hStandsNext, hSpares, hChannels⟩ :=
    (hStands.acts (line.farEnd [] []) hRests.succeeds line.farOutlet hHolds.far).of_rests hRests rfl
      rfl hStep
  exact ⟨next, hNext, hCost, ⟨hServes.sane, site, hSignal, by rw [hLocator, hSpares.sources],
    hStandsNext⟩, hHolds.far_putIn hChannels, hSpares⟩

/-- A request that was read is answered, which does not disturb the requester. -/
theorem Serves.receives {reading : FrameReading} {question : Question}
    (hServes : line.Serves cluster serving (.take reading) locator)
    (hAsks : line.Asks home cluster processor requesting duty)
    (hDecode : Message.decode line.far.version payload = .ok question.request)
    (hDue : question.due = (locator.answer true question.groups).outcome)
    (hReceive : (servingNext, after) = Serving.receive
      ⟨line.server, .channel line.channel .acceptor, .reading .start⟩ cluster line.far payload) :
    line.Serves after servingNext (.give (.obtain 5 question.response.encoding))
        (locator.keep true question.groups) ∧
      line.Asks home after processor requesting duty ∧ question.response.Obtainable ∧
      after.channels = cluster.channels := by
  obtain ⟨site, hSignal, hLocator, hStands⟩ := hServes.stands
  obtain ⟨hSane, hKeyed⟩ := Locator.sane_answer hServes.sane question.groups
  cases hStands with
  | reading reading hIdle =>
      obtain ⟨hOutcome, hKept, found, hHandles⟩ := hIdle.handle question.groups
      rw [← hLocator] at hOutcome hKept hHandles
      obtain ⟨delivery, hAnswer, hDelivery⟩ := Serving.receive_request
        (.channel line.channel .acceptor) hDecode (.reading .start) hKept hSignal
      cases hReceive.trans hAnswer
      rw [hOutcome, ← hDue] at hDelivery
      refine ⟨⟨hSane, { site with cache := (locator.keep true question.groups).cache }, hSignal, ?_,
        .replying hDelivery⟩, hAsks.congr (fun holder ready hKeeps => hKeeps.congr ?_ ?_) fun id => ?_,
        ?_, hHandles.channels⟩
      · rw [hHandles.sources, hLocator]
        rfl
      · rw [hHandles.connections]
      · exact hHandles.elsewhere _ line.sites
      · simp only [Cluster.stage?, hHandles.sessions]
      · intro other snapshot hReady
        rw [Question.response, hDue, Message.configurationResponse.injEq] at hReady
        exact Snapshot.obtainable_of_keyed (hKeyed snapshot hReady.2)

end Line

end ConfigExchange
