import ConfigExchange.Proofs.Dialogue.Line

/-! Calls over a line. Whatever happens between the calls, and in whatever order the parties go on
during one, each call returns what the locator would have answered itself. -/
namespace ConfigExchange.Line

variable {line : Line} {home : Site} {cluster : Cluster} {dialogue next : Dialogue} {cost : Nat}

/-- A message is sent in this payload over a line, and is not too large for either side. Its length
fits the header of a frame. -/
structure Carries (line : Line) (message : Message) (payload : Bytes) : Prop where
  encodes : message.encode line.far.version = .ok payload
  near : payload.length ≤ line.near.maxMessageSize
  far : payload.length ≤ line.far.maxMessageSize
  header : payload.length < byteRange headerWidth

theorem Carries.prepare_near {message : Message} {payload : Bytes}
    (hCarries : line.Carries message payload) :
    line.near.prepare message.encoding = .ok payload := by
  have hEncodes : (message.encoding line.near.version).result = .ok payload :=
    line.version ▸ hCarries.encodes
  simp only [Connection.prepare, hEncodes, if_neg (Nat.not_lt.2 hCarries.near)]

theorem Carries.prepare_far {message : Message} {payload : Bytes}
    (hCarries : line.Carries message payload) :
    line.far.prepare message.encoding = .ok payload := by
  have hEncodes : (message.encoding line.far.version).result = .ok payload := hCarries.encodes
  simp only [Connection.prepare, hEncodes, if_neg (Nat.not_lt.2 hCarries.far)]

/-- How many steps it can take at most from the reading of a request to the answer. -/
def replyCost (line : Line) (response : Message) (payload : Bytes) : Nat :=
  (Duty.give (.obtain 5 response.encoding)).cost 2 line.far + (frame payload).length + 1

/-- Where a dialogue stands, and how many steps it can take at most until nothing is left to do. -/
inductive Stands (line : Line) (home : Site) : Dialogue → Nat → Prop where
  /-- No call is under way. -/
  | idle {cluster : Cluster} {serving : Serving} {duty : Duty} {locator : Locator}
      {asked : List Question} {results : List (Except ExchangeError Outcome)}
      (hRequester : cluster.Idle line.requester line.near home)
      (hServer : line.Serves cluster serving duty locator) (hRests : duty.Rests line.far)
      (hHolds : line.Holds cluster [] [])
      (hResults : results = asked.map fun question => .ok question.due) :
      Stands line home ⟨cluster, serving, none, asked, results⟩ (duty.cost 2 line.far)
  /-- The request passes to the locator. -/
  | asking {cluster : Cluster} {serving : Serving} {requesting : Requesting} {giver taker : Duty}
      {locator : Locator} {there request response : Bytes} {question : Question}
      {answered : List Question}
      (hRequester : line.Asks home cluster question.processor requesting giver)
      (hServer : line.Serves cluster serving taker locator)
      (hPasses : Duty.Passes request line.near line.far giver taker there)
      (hHolds : line.Holds cluster there []) (hRequest : line.Carries question.request request)
      (hResponse : line.Carries question.response response)
      (hDue : question.due = (locator.answer true question.groups).outcome) :
      Stands line home
        ⟨cluster, serving, some requesting, answered ++ [question],
          answered.map fun question => .ok question.due⟩
        (Duty.passingCost 1 2 line.near line.far giver taker there +
          line.replyCost question.response response)
  /-- The response passes to the requester. -/
  | answering {cluster : Cluster} {serving : Serving} {requesting : Requesting} {giver taker : Duty}
      {locator : Locator} {back response : Bytes} {question : Question} {answered : List Question}
      (hRequester : line.Asks home cluster question.processor requesting taker)
      (hServer : line.Serves cluster serving giver locator)
      (hPasses : Duty.Passes response line.far line.near giver taker back)
      (hHolds : line.Holds cluster [] back) (hResponse : line.Carries question.response response)
      (hObtainable : question.response.Obtainable) :
      Stands line home
        ⟨cluster, serving, some requesting, answered ++ [question],
          answered.map fun question => .ok question.due⟩
        (Duty.passingCost 2 1 line.far line.near giver taker back + 1)
  /-- The requester has its answer. -/
  | answered {cluster : Cluster} {serving : Serving} {requesting : Requesting} {duty : Duty}
      {locator : Locator} {question : Question} {answered : List Question}
      (hRequester : cluster.Idle line.requester line.near home)
      (hFinished : requesting.stage = .finished (.ok question.due))
      (hServer : line.Serves cluster serving duty locator) (hRests : duty.Rests line.far)
      (hHolds : line.Holds cluster [] []) :
      Stands line home
        ⟨cluster, serving, some requesting, answered ++ [question],
          answered.map fun question => .ok question.due⟩
        (duty.cost 2 line.far + 1)

theorem Asks.result?_eq_none {processor : UInt32} {requesting : Requesting} {duty : Duty}
    (hAsks : line.Asks home cluster processor requesting duty) : requesting.result? = none := by
  cases hAsks <;> rfl

/-- The frame of a response is accepted as the answer. -/
theorem Carries.accept {question : Question} {payload : Bytes}
    (hCarries : line.Carries question.response payload)
    (hObtainable : question.response.Obtainable) :
    Requesting.accept question.processor line.near.version payload = .ok question.due := by
  have hDecode := (Message.decode_encode hObtainable hCarries.encodes).1
  rw [← line.version] at hDecode
  simp only [Requesting.accept, hDecode, Question.response, if_true]

/-- A step of either party leads on, and not back. -/
theorem Stands.step (hStands : line.Stands home dialogue cost) (hStep : dialogue.Step next) :
    ∃ less, less < cost ∧ line.Stands home next less := by
  cases hStands with
  | idle hRequester hServer hRests hHolds hResults =>
      cases hStep with
      | serves hStep =>
          obtain ⟨duty, hNext, hCost, hServes, hHoldsNext, hSpares⟩ :=
            hServer.rests hRests hHolds hStep
          exact ⟨_, hCost, .idle (idle_of_spares hRequester hSpares) hServes hNext hHoldsNext
            hResults⟩
  | @asking _ _ _ giver taker locator there request response question answered hRequester hServer
      hPasses hHolds hRequest hResponse hDue =>
      cases hStep with
      | requests hStep =>
          obtain ⟨duty, thereNext, hNext, hCost, hAsks, hHoldsNext, hSpares⟩ :=
            hRequester.gives hPasses hHolds hStep
          exact ⟨_, Nat.add_lt_add_right hCost _, .asking hAsks (hServer.of_spares hSpares) hNext
            hHoldsNext hRequest hResponse hDue⟩
      | returns hResult => cases (Asks.result?_eq_none hRequester).symm.trans hResult
      | serves hStep =>
          rcases hServer.takes hPasses hHolds hRequest.far hRequest.header hStep with
            ⟨duty, thereNext, hNext, hCost, hServes, hHoldsNext, hSpares⟩ |
            ⟨reading, middle, hServes, hCost, hGiven, hHoldsNext, hSpares, hReceive⟩
          · exact ⟨_, Nat.add_lt_add_right hCost _, .asking (hRequester.of_spares hSpares) hServes
              hNext hHoldsNext hRequest hResponse hDue⟩
          · have hDecode := (Message.decode_encode (by
              intro processor snapshot hSame
              cases hSame) hRequest.encodes).1
            obtain ⟨hAnswers, hAsks, hObtainable, hChannels⟩ :=
              hServes.receives (hRequester.of_spares hSpares) hDecode hDue hReceive
            -- The requester has nothing left to write, and reads the response from its start.
            refine ⟨_, ?_, .answering hAsks hAnswers (Duty.Rests.passes
              ⟨hPasses.fresh, hPasses.gives, hGiven⟩ hResponse.prepare_far 5)
              (hHoldsNext.congr hChannels)
              hResponse hObtainable⟩
            simp only [Duty.passingCost, replyCost, Duty.due, Errand.due, hResponse.prepare_far,
              List.nil_append] at hCost ⊢
            omega
  | answering hRequester hServer hPasses hHolds hResponse hObtainable =>
      cases hStep with
      | requests hStep =>
          rcases hRequester.takes hPasses hHolds hResponse.near hResponse.header hStep with
            ⟨duty, backNext, hNext, hCost, hAsks, hHoldsNext, hSpares⟩ |
            ⟨hCost, hGiven, hFinished, hIdle, hHoldsNext, hSpares⟩
          · exact ⟨_, Nat.add_lt_add_right hCost _,
              .answering hAsks (hServer.of_spares hSpares) hNext
              hHoldsNext hResponse hObtainable⟩
          · rw [hResponse.accept hObtainable] at hFinished
            exact ⟨_, Nat.add_lt_add_right hCost _, .answered hIdle hFinished
              (hServer.of_spares hSpares) ⟨hPasses.fresh, hPasses.gives, hGiven⟩ hHoldsNext⟩
      | returns hResult => cases (Asks.result?_eq_none hRequester).symm.trans hResult
      | serves hStep =>
          obtain ⟨duty, backNext, hNext, hCost, hServes, hHoldsNext, hSpares⟩ :=
            hServer.gives hPasses hHolds hStep
          exact ⟨_, Nat.add_lt_add_right hCost _, .answering (hRequester.of_spares hSpares) hServes
            hNext hHoldsNext hResponse hObtainable⟩
  | answered hRequester hFinished hServer hRests hHolds =>
      cases hStep with
      | requests hStep => simp [Requesting.step, hFinished] at hStep
      | returns hResult =>
          rw [Requesting.result?, hFinished] at hResult
          cases hResult
          exact ⟨_, Nat.lt_succ_self _, .idle hRequester hServer hRests hHolds (by simp)⟩
      | serves hStep =>
          obtain ⟨duty, hNext, hCost, hServes, hHoldsNext, hSpares⟩ :=
            hServer.rests hRests hHolds hStep
          exact ⟨_, Nat.add_lt_add_right hCost _, .answered (idle_of_spares hRequester hSpares)
            hFinished hServes hNext hHoldsNext⟩

/-- What may be asked over a line: both messages of the call can be sent. -/
def Fits (line : Line) (question : Question) : Prop :=
  (∃ payload, line.Carries question.request payload) ∧
    ∃ payload, line.Carries question.response payload

/-- The time matters to nobody. -/
theorem spares_now (cluster : Cluster) (now : Micros) (index place : Nat) :
    cluster.Spares { cluster with now } index place :=
  ⟨fun _ _ => rfl, fun _ _ => rfl, fun _ _ _ => rfl, rfl⟩

/-- Whatever is done with the service and the sources, the server goes on. -/
theorem Serves.changes {serving : Serving} {duty : Duty} {locator : Locator}
    (hServes : line.Serves cluster serving duty locator) (service : Service Nat)
    (sources : List SourceRecord) :
    line.Serves
      { cluster.modifySite line.far.site fun site => { site with service } with sources }
      serving duty
      ⟨service, locator.cache, sources.map (·.source)⟩ := by
  obtain ⟨site, hSignal, rfl, hStands⟩ := hServes.stands
  refine ⟨hServes.sane, { site with service }, hSignal, rfl, ?_⟩
  refine hStands.congr (fun holder ready hKeeps => ⟨hKeeps.here, hKeeps.opened, ?_⟩) rfl fun _ => rfl
  obtain ⟨pool, hPool, hCalm, hReady⟩ := hKeeps.place
  refine ⟨pool, ?_, hCalm, hReady⟩
  simp [Cluster.modifySite, hPool]

/-- What happens besides the steps does not disturb a call, and begins one only if none is under
way. -/
theorem Stands.event (hStands : line.Stands home dialogue cost) (hEvent : line.Event dialogue next)
    (hFits : ∀ question ∈ next.asked, line.Fits question) :
    ∃ more, line.Stands home next more := by
  cases hEvent with
  | asks processor groups =>
      cases hStands with
      | idle hRequester hServer hRests hHolds hResults =>
          obtain ⟨⟨request, hRequest⟩, response, hResponse⟩ :=
            hFits _ (List.mem_append_right _ (List.mem_singleton_self _))
          subst hResults
          exact ⟨_, .asking (.sending (.starting _ hRequester)) hServer
            (hRests.passes hRequest.prepare_near 4) hHolds hRequest hResponse
            (hServer.handle_eq groups)⟩
  | changes service sources =>
      cases hStands with
      | idle hRequester hServer hRests hHolds hResults =>
          refine ⟨_, .idle (hRequester.congr rfl ?_) (hServer.changes service sources) hRests hHolds
            hResults⟩
          exact List.getElem?_modify_ne _ _ line.sites.symm
  | passes now =>
      cases hStands with
      | idle hRequester hServer hRests hHolds hResults =>
          exact ⟨_, .idle (idle_of_spares hRequester (spares_now _ _ _ _))
            (hServer.of_spares (spares_now _ _ _ _)) hRests hHolds hResults⟩
      | asking hRequester hServer hPasses hHolds hRequest hResponse hDue =>
          exact ⟨_, .asking (hRequester.of_spares (spares_now _ _ _ _))
            (hServer.of_spares (spares_now _ _ _ _)) hPasses hHolds hRequest hResponse hDue⟩
      | answering hRequester hServer hPasses hHolds hResponse hObtainable =>
          exact ⟨_, .answering (hRequester.of_spares (spares_now _ _ _ _))
            (hServer.of_spares (spares_now _ _ _ _)) hPasses hHolds hResponse hObtainable⟩
      | answered hRequester hFinished hServer hRests hHolds =>
          exact ⟨_, .answered (idle_of_spares hRequester (spares_now _ _ _ _)) hFinished
            (hServer.of_spares (spares_now _ _ _ _)) hRests hHolds⟩

/-- As long as a call is under way one of the parties does a step. -/
theorem Stands.steps (hStands : line.Stands home dialogue cost) (hCall : dialogue.call.isSome) :
    ∃ next, dialogue.Step next := by
  cases hStands with
  | idle hRequester hServer hRests hHolds hResults => cases hCall
  | asking hRequester hServer hPasses hHolds hRequest hResponse hDue =>
      obtain ⟨site, -, -, hServing⟩ := hServer.stands
      rcases hPasses.steps
          (Requesting.Stands.acts (line.nearEnd _ []) hRequester hPasses.gives line.nearOutlet
            hHolds)
          (hServing.acts (line.farEnd _ []) hPasses.takes line.farOutlet hHolds.far)
          rfl rfl line.room rfl with ⟨⟨later, after⟩, hStep⟩ | ⟨⟨later, after⟩, hStep⟩
      · exact ⟨_, .requests hStep⟩
      · exact ⟨_, .serves hStep⟩
  | answering hRequester hServer hPasses hHolds hResponse hObtainable =>
      obtain ⟨site, -, -, hServing⟩ := hServer.stands
      rcases hPasses.steps
          (hServing.acts (line.farEnd [] _) hPasses.gives line.farOutlet hHolds.far)
          (Requesting.Stands.acts (line.nearEnd [] _) hRequester hPasses.takes line.nearOutlet
            hHolds)
          rfl rfl line.room rfl with ⟨⟨later, after⟩, hStep⟩ | ⟨⟨later, after⟩, hStep⟩
      · exact ⟨_, .serves hStep⟩
      · exact ⟨_, .requests hStep⟩
  | answered hRequester hFinished hServer hRests hHolds =>
      exact ⟨_, .returns (by rw [Requesting.result?, hFinished])⟩

/-- What has come back are the answers that were due, and none is missing but that of the call that
is under way. -/
theorem Stands.results (hStands : line.Stands home dialogue cost) :
    ∃ answered waiting, dialogue.asked = answered ++ waiting ∧
      dialogue.results = (answered.map fun question => .ok question.due) ∧
      waiting.length = dialogue.call.toList.length := by
  cases hStands with
  | idle hRequester hServer hRests hHolds hResults =>
      exact ⟨_, [], (List.append_nil _).symm, hResults, rfl⟩
  | asking hRequester hServer hPasses hHolds hRequest hResponse hDue => exact ⟨_, _, rfl, rfl, rfl⟩
  | answering hRequester hServer hPasses hHolds hResponse hObtainable => exact ⟨_, _, rfl, rfl, rfl⟩
  | answered hRequester hFinished hServer hRests hHolds => exact ⟨_, _, rfl, rfl, rfl⟩

/-! ### Runs -/

theorem Joins.stands {site : Site} (hJoins : line.Joins cluster home site) :
    line.Stands home (line.start cluster) 0 :=
  @Stands.idle _ _ _ _ (.take .start) _ _ _ hJoins.requester
    ⟨hJoins.cache, site, hJoins.signal, rfl, .reading .start hJoins.server⟩ ⟨rfl, trivial, rfl⟩
    hJoins.channel rfl

theorem Runs.stands {first last : Dialogue} (hRuns : line.Runs first last)
    (hStands : line.Stands home first cost) (hFits : ∀ question ∈ last.asked, line.Fits question) :
    ∃ more, line.Stands home last more := by
  induction hRuns with
  | start => exact ⟨cost, hStands⟩
  | step prior last ih =>
      obtain ⟨more, hMore⟩ := ih (last.asked_eq ▸ hFits)
      obtain ⟨less, -, hLess⟩ := hMore.step last
      exact ⟨less, hLess⟩
  | event prior last ih =>
      obtain ⟨more, hMore⟩ := ih fun question hQuestion =>
        hFits question (last.asked_prefix.subset hQuestion)
      exact hMore.event last hFits

/-- The parties come to an end. -/
theorem Stands.stepsFor {last : Dialogue} {steps : Nat} (hSteps : dialogue.StepsFor last steps)
    (hStands : line.Stands home dialogue cost) :
    ∃ less, steps + less ≤ cost ∧ line.Stands home last less ∧ last.asked = dialogue.asked := by
  induction hSteps with
  | zero => exact ⟨cost, by omega, hStands, rfl⟩
  | succ prior last ih =>
      obtain ⟨middle, hMiddle, hThere, hAsked⟩ := ih
      obtain ⟨less, hLess, hNext⟩ := hThere.step last
      exact ⟨less, by omega, hNext, last.asked_eq.trans hAsked⟩

/-- Each call returns what the locator would have answered itself when it was made. In whatever
order the parties go on, they come to an end, and then the call that was under way has returned as
well. -/
theorem calls_return_due {site : Site} (hJoins : line.Joins cluster home site) {later : Dialogue}
    (hRuns : line.Runs (line.start cluster) later)
    (hFits : ∀ question ∈ later.asked, line.Fits question) :
    (∃ answered waiting, later.asked = answered ++ waiting ∧
      later.results = (answered.map fun question => .ok question.due) ∧
      waiting.length = later.call.toList.length) ∧
    ∃ bound, ∀ last steps, later.StepsFor last steps → steps ≤ bound ∧
      ((∀ next, ¬ last.Step next) → last.call = none ∧
        last.results = later.asked.map fun question => .ok question.due) := by
  obtain ⟨cost, hStands⟩ := hRuns.stands hJoins.stands hFits
  refine ⟨hStands.results, cost, fun last steps hSteps => ?_⟩
  obtain ⟨less, hBound, hLast, hAsked⟩ := hStands.stepsFor hSteps
  refine ⟨by omega, fun hStop => ?_⟩
  have hReturned : last.call = none := by
    rw [← Option.not_isSome_iff_eq_none]
    intro hCall
    obtain ⟨next, hNext⟩ := hLast.steps hCall
    exact hStop next hNext
  obtain ⟨answered, waiting, hSame, hResults, hWaiting⟩ := hLast.results
  have hNone : waiting = [] := by simpa [hReturned] using hWaiting
  rw [hNone, List.append_nil] at hSame
  exact ⟨hReturned, by rw [hResults, ← hAsked, hSame]⟩

/-! ### A line that holds one byte -/

/-- Two members, and between them a channel that holds one byte. -/
def shortLine : Line where
  channel := 0
  capacity := 1
  requester := 0
  server := 1
  near :=
    { site := 0, remote := ⟨.v4 (.replicate 4 127) 40404, 1⟩, version := .v2
      outlet := .channel 0 .dialer, acquireTimeout := 5000000, maxMessageSize := 200 }
  far :=
    { site := 1, remote := ⟨.v4 (.replicate 4 127) 40405, 2⟩, version := .v2
      outlet := .channel 0 .acceptor, acquireTimeout := 5000000, maxMessageSize := 200 }
  room := by decide
  nearOutlet := rfl
  farOutlet := rfl
  version := rfl
  connections := by decide
  sites := by decide

/-- Neither of them has published anything yet. -/
def shortCluster : Cluster where
  sites := [.ofSettings shortLine.far.remote {}, .ofSettings shortLine.near.remote {}]
  connections := [shortLine.near, shortLine.far]
  channels := [.ofCapacity 1]

theorem joins_shortLine : shortLine.Joins shortCluster (.ofSettings shortLine.far.remote {})
    (.ofSettings shortLine.near.remote {}) where
  requester := ⟨rfl, rfl, _, rfl, ⟨rfl, rfl⟩, by decide⟩
  server := ⟨rfl, rfl, _, rfl, ⟨rfl, rfl⟩, by decide⟩
  channel := rfl
  signal := rfl
  cache := by
    intro kept hKept entry hEntry
    cases hKept
    cases hEntry

theorem carries_shortLine {message : Message}
    (hShort : (message.encode .v2).toOption.any (·.length ≤ 200)) :
    ∃ payload, shortLine.Carries message payload := by
  cases hEncode : message.encode .v2 with
  | error error => simp [hEncode, Except.toOption] at hShort
  | ok payload =>
      have hLength : payload.length ≤ 200 := by simpa [hEncode, Except.toOption] using hShort
      exact ⟨payload, hEncode, hLength, hLength, Nat.lt_of_le_of_lt hLength (by decide)⟩

/-- The group that the second member publishes. -/
def sharedGroup : Group := { name := "web", jars := NameMap.insert ∅ "a.jar" () }

/-- The second member has published it. -/
def publishedCluster : Cluster :=
  { shortCluster.modifySite 1 fun site =>
      { site with service := { enabled := true, phase := .running, published := some 0 } } with
    sources := [{ source := .store (.ofGroups [sharedGroup]) }] }

/-- A group is published and then asked for, and the call returns it. -/
theorem call_returns_published :
    let due : Outcome := .ready ⟨0, NameMap.insert ∅ "web" sharedGroup⟩
    ∃ later : Dialogue, shortLine.Runs (shortLine.start shortCluster) later ∧
      later.asked = [⟨7, NameMap.insert ∅ "web" (), due⟩] ∧ later.call.isSome ∧
      ∃ bound, ∀ last steps, later.StepsFor last steps → steps ≤ bound ∧
        ((∀ next, ¬ last.Step next) → last.call = none ∧ last.results = [.ok due]) := by
  intro due
  have hDue : (publishedCluster.handle 1 true (NameMap.insert ∅ "web" ())).1 = due := by
    decide +kernel
  have hChanges :
      shortLine.Event (shortLine.start shortCluster) (shortLine.start publishedCluster) :=
    .changes _ _
  have hAsks : shortLine.Event (shortLine.start publishedCluster)
      { shortLine.start publishedCluster with
        call := some (.start 0 (.channel 0 .dialer) 7 (NameMap.insert ∅ "web" ()))
        asked := [⟨7, NameMap.insert ∅ "web" (),
          (publishedCluster.handle 1 true (NameMap.insert ∅ "web" ())).1⟩] } := .asks _ _
  rw [hDue] at hAsks
  have hRuns := Runs.event (.event (.start _) hChanges) hAsks
  have hFits : ∀ question ∈ [(⟨7, NameMap.insert ∅ "web" (), due⟩ : Question)],
      shortLine.Fits question := by
    intro question hQuestion
    rw [List.mem_singleton] at hQuestion
    subst hQuestion
    exact ⟨carries_shortLine (by decide +kernel), carries_shortLine (by decide +kernel)⟩
  obtain ⟨-, bound, hBound⟩ := calls_return_due joins_shortLine hRuns hFits
  exact ⟨_, hRuns, rfl, rfl, bound, hBound⟩

end ConfigExchange.Line
