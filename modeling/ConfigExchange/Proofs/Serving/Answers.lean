import ConfigExchange.Proofs.Cluster.Log
import ConfigExchange.Proofs.Serving.Run

/-! What is answered. On a connection that nobody else uses, over a socket that takes everything,
the requests among the frames that are read are answered one after the other, and whatever else is
read is passed over. The first response that cannot be sent ends the serving. -/
namespace ConfigExchange

namespace Cluster

variable {cluster : Cluster}

/-! ### Responses -/

/-- The responses to the requests among some payloads, worked out one after the other. -/
def responses (cluster : Cluster) (site : Nat) (version : Version) : List Bytes → List Message
  | [] => []
  | payload :: rest =>
    match Message.decode version payload with
    | .ok (.configurationRequest processor groups) =>
      let (outcome, later) := cluster.handle site true groups
      .configurationResponse processor outcome :: later.responses site version rest
    | _ => cluster.responses site version rest

theorem responses_request {version : Version} {payload : Bytes} {processor : UInt32}
    {groups : NameSet}
    (hDecode : Message.decode version payload = .ok (.configurationRequest processor groups))
    (place : Nat) (rest : List Bytes) :
    cluster.responses place version (payload :: rest) =
      .configurationResponse processor (cluster.handle place true groups).1 ::
        (cluster.handle place true groups).2.responses place version rest := by
  simp only [responses, hDecode]

theorem responses_other {version : Version} {payload : Bytes}
    (hOther : ∀ processor groups,
      Message.decode version payload ≠ .ok (.configurationRequest processor groups))
    (place : Nat) (rest : List Bytes) :
    cluster.responses place version (payload :: rest) = cluster.responses place version rest := by
  rw [responses]
  split
  · next processor groups hDecode => exact absurd hDecode (hOther processor groups)
  · rfl

/-- Responses depend on the locator only. -/
theorem responses_congr {other : Cluster} {place : Nat}
    (hSame : other.locator? place = cluster.locator? place) (version : Version)
    (payloads : List Bytes) :
    other.responses place version payloads = cluster.responses place version payloads := by
  induction payloads generalizing cluster other with
  | nil => rfl
  | cons payload rest ih =>
      by_cases hRequest : ∃ processor groups,
          Message.decode version payload = .ok (.configurationRequest processor groups)
      · obtain ⟨processor, groups, hDecode⟩ := hRequest
        obtain ⟨hOutcome, hLater⟩ := handle_congr hSame true groups
        rw [responses_request hDecode, responses_request hDecode, hOutcome, ih hLater]
      · have hOther : ∀ processor groups,
            Message.decode version payload ≠ .ok (.configurationRequest processor groups) :=
          fun processor groups hDecode => hRequest ⟨processor, groups, hDecode⟩
        rw [responses_other hOther, responses_other hOther, ih hSame]

end Cluster

/-! ### What is sent of the responses -/

/-- A message can be sent if it can be written and is not too large. -/
theorem Connection.prepare_eq_ok {connection : Connection} {message : Message} {payload : Bytes} :
    connection.prepare message.encoding = .ok payload ↔
      message.encode connection.version = .ok payload ∧
        payload.length ≤ connection.maxMessageSize := by
  unfold prepare Message.encode
  cases (message.encoding connection.version).result with
  | error error => simp
  | ok bytes =>
      by_cases hSize : connection.maxMessageSize < bytes.length
      · simp only [hSize, if_true, reduceCtorEq, Except.ok.injEq, false_iff, not_and]
        rintro rfl
        omega
      · simp only [hSize, if_false, Except.ok.injEq]
        constructor
        · rintro rfl
          exact ⟨rfl, by omega⟩
        · exact fun hBoth => hBoth.1

theorem Connection.map_encode {connection : Connection} {messages : List Message}
    {payloads : List Bytes}
    (hPayloads : messages.map (fun message => connection.prepare message.encoding) =
      payloads.map .ok) :
    messages.map (·.encode connection.version) = payloads.map .ok := by
  induction messages generalizing payloads with
  | nil => simpa using hPayloads
  | cons message rest ih =>
      cases payloads with
      | nil => cases hPayloads
      | cons payload others =>
          obtain ⟨hFirst, hRest⟩ := List.cons.inj hPayloads
          rw [List.map_cons, List.map_cons, (prepare_eq_ok.1 hFirst).1, ih hRest]

/-- What is written of some responses, and what comes of serving them. Either all of them are sent
and the serving ends as the frames do, or one cannot be sent and the serving ends there. -/
inductive Served (connection : Connection) (responses : List Message)
    (conclusion : Option (Except FrameError Unit)) :
    Bytes → Option (Except ExchangeError Unit) → Prop where
  | all {payloads : List Bytes}
      (hPayloads : responses.map (fun response => connection.prepare response.encoding) =
        payloads.map .ok) :
      Served connection responses conclusion (payloads.flatMap frame)
        (conclusion.map (·.mapError .frame))
  | upTo {answered rest : List Message} {refused : Message} {payloads : List Bytes}
      {error : SendError} (hResponses : responses = answered ++ refused :: rest)
      (hPayloads : answered.map (fun response => connection.prepare response.encoding) =
        payloads.map .ok)
      (hRefused : connection.prepare refused.encoding = .error error) :
      Served connection responses conclusion (payloads.flatMap frame)
        (some (.error (.reply (connection.refusal error))))

namespace Served

variable {connection : Connection} {responses : List Message}
  {conclusion : Option (Except FrameError Unit)}

/-- If there is nothing to answer, nothing is written. -/
theorem nothing : Served connection [] conclusion [] (conclusion.map (·.mapError .frame)) :=
  @all connection [] conclusion [] rfl

/-- A response is sent before the others. -/
theorem cons {bytes payload : Bytes} {result : Option (Except ExchangeError Unit)}
    {response : Message} (hServed : Served connection responses conclusion bytes result)
    (hPayload : connection.prepare response.encoding = .ok payload) :
    Served connection (response :: responses) conclusion (frame payload ++ bytes) result := by
  cases hServed with
  | @all payloads hPayloads =>
      have hAll : (response :: responses).map (fun response => connection.prepare response.encoding) =
          (payload :: payloads).map .ok := by
        rw [List.map_cons, List.map_cons, hPayload, hPayloads]
      exact all hAll
  | @upTo answered rest refused payloads error hResponses hPayloads hRefused =>
      subst hResponses
      have hAll : (response :: answered).map (fun response => connection.prepare response.encoding) =
          (payload :: payloads).map .ok := by
        rw [List.map_cons, List.map_cons, hPayload, hPayloads]
      exact upTo rfl hAll hRefused

/-- If the first response cannot be sent, nothing is written. -/
theorem refused {response : Message} {error : SendError}
    (hRefused : connection.prepare response.encoding = .error error) :
    Served connection (response :: responses) conclusion []
      (some (.error (.reply (connection.refusal error)))) :=
  @upTo connection _ conclusion [] _ _ [] _ rfl rfl hRefused

/-- So it has to be then. -/
theorem eq_of_refused {bytes : Bytes} {result : Option (Except ExchangeError Unit)}
    {response : Message} {error : SendError}
    (hServed : Served connection (response :: responses) conclusion bytes result)
    (hRefused : connection.prepare response.encoding = .error error) :
    bytes = [] ∧ result = some (.error (.reply (connection.refusal error))) := by
  cases hServed with
  | @all payloads hPayloads =>
      cases payloads with
      | nil => cases hPayloads
      | cons payload others => cases hRefused.symm.trans (List.cons.inj hPayloads).1
  | @upTo answered rest found payloads other hResponses hPayloads hFound =>
      cases answered with
      | nil =>
          cases hResponses
          cases hFound.symm.trans hRefused
          cases payloads with
          | nil => exact ⟨rfl, rfl⟩
          | cons payload others => cases hPayloads
      | cons first others =>
          cases hResponses
          cases payloads with
          | nil => cases hPayloads
          | cons payload others => cases hRefused.symm.trans (List.cons.inj hPayloads).1

/-- What can be sent does not depend on where it goes. -/
theorem of_outlet {bytes : Bytes} {result : Option (Except ExchangeError Unit)} {outlet : Outlet}
    (hServed : Served { connection with outlet } responses conclusion bytes result) :
    Served connection responses conclusion bytes result := by
  cases hServed with
  | all hPayloads => exact all hPayloads
  | upTo hResponses hPayloads hRefused => exact upTo hResponses hPayloads hRefused

end Served

namespace Serving

variable {cluster : Cluster} {index : Nat} {connection : Connection} {site : Site} {socket : Socket}

/-- Anything but a request is passed over. -/
theorem receive_other {payload : Bytes} (hOther : ∀ processor groups,
      Message.decode connection.version payload ≠ .ok (.configurationRequest processor groups))
    (inlet : Inlet) (stage : ServingStage) :
    (⟨index, inlet, stage⟩ : Serving).receive cluster connection payload =
      (⟨index, inlet, .reading .start⟩, cluster) := by
  unfold receive
  split
  · next processor groups hDecode => exact absurd hDecode (hOther processor groups)
  · rfl

/-- A request is answered and the next frame read, or its response cannot be sent and the serving
ends. -/
theorem runs_request (hIdle : cluster.Idle index connection site)
    (hSignal : site.signal.reason = none) (hAccepting : socket.Accepting)
    (hOutlet : connection.outlet = .socket socket) {payload : Bytes} {processor : UInt32}
    {groups : NameSet} (hDecode : Message.decode connection.version payload =
      .ok (.configurationRequest processor groups)) (inlet : Inlet) (stage : ServingStage) :
    let handled := cluster.handle connection.site true groups
    let response : Message := .configurationResponse processor handled.1
    ∃ cache after socketNext,
      after.Idle index { connection with outlet := .socket socketNext } { site with cache } ∧
      after.locator? connection.site = handled.2.locator? connection.site ∧ socketNext.Accepting ∧
      match connection.prepare response.encoding with
      | .ok sent => socketNext.accepted = socket.accepted ++ frame sent ∧
          Runs (receive ⟨index, inlet, stage⟩ cluster connection payload)
            (⟨index, inlet, .reading .start⟩, after)
      | .error error => socketNext.accepted = socket.accepted ∧
          Runs (receive ⟨index, inlet, stage⟩ cluster connection payload)
            (⟨index, inlet, .finished (.error (.reply (connection.refusal error)))⟩, after) := by
  intro handled response
  obtain ⟨-, hHandled, -⟩ := hIdle.handle groups
  obtain ⟨delivery, hReceive, hStands⟩ := receive_request inlet hDecode stage hHandled hSignal
  change delivery.Stands handled.2 index connection { site with cache := _ }
    (.obtain 5 response.encoding) at hStands
  obtain ⟨sender, after, socketNext, hRecipient, hRuns, hIdleLast, hSpares, hNext, hAccepted⟩ :=
    runs_reply hAccepting hOutlet hStands inlet
  rw [hReceive]
  refine ⟨_, after, socketNext, hIdleLast, ?_, hNext, ?_⟩
  · rw [hIdleLast.locator?, hHandled.locator?, hSpares.sources]
  · cases hPrepare : connection.prepare response.encoding with
    | ok sent =>
        simp only [Errand.outcome, Errand.due, hPrepare] at hRuns hAccepted
        exact ⟨hAccepted, hRuns.tail (step_replied inlet hIdleLast.here _)⟩
    | error error =>
        simp only [Errand.outcome, Errand.due, hPrepare, List.append_nil] at hRuns hAccepted
        have hRefused := Sender.conclude_refused hPrepare hRecipient
        refine ⟨hAccepted, hRuns.tail ?_⟩
        simp only [Except.map]
        rw [hRefused]
        exact step_refused inlet hIdleLast.here _ _

/-- An error of the reading ends the serving. -/
theorem runs_error {serving : Serving} {error : FrameError} {rest : Feed}
    (hReads : Reads cluster index connection serving (some (.error error), rest)) :
    ∃ last, Runs (serving, cluster) (last, cluster) ∧ last.step cluster = none ∧
      last.result? =
        some (Except.mapError .frame (if error = .closed then .ok () else .error error)) := by
  cases error with
  | closed => exact ⟨_, hReads, by simp [step], rfl⟩
  | _ => exact ⟨_, hReads, by simp [step], rfl⟩

/-- Whatever is read, the responses to its requests are sent, up to the first that cannot be. -/
theorem runs_frames (hIdle : cluster.Idle index connection site)
    (hSignal : site.signal.reason = none) (hAccepting : socket.Accepting)
    (hOutlet : connection.outlet = .socket socket) (feed : Feed) :
    ∃ last after socketNext bytes,
      Runs (⟨index, .feed feed, .reading .start⟩, cluster) (last, after) ∧
      last.step after = none ∧
      (∃ site, after.Idle index { connection with outlet := .socket socketNext } site) ∧
      socketNext.accepted = socket.accepted ++ bytes ∧
      Served connection (cluster.responses connection.site connection.version
        (feed.payloads connection.maxMessageSize)) (feed.conclusion connection.maxMessageSize) bytes
        last.result? := by
  -- Each frame that is read leaves less on the feed.
  induction hWeight : feed.weight using Nat.strongRecOn
    generalizing feed cluster connection site socket with
  | ind weight ih =>
      have hReads := reads_finishFrame hIdle.here .start feed
      have hPayloads := feed.payloads_cases connection.maxMessageSize
      change Reads cluster index _ _ (feed.readFrame connection.maxMessageSize) at hReads
      cases hFrame : feed.readFrame connection.maxMessageSize with
      | mk result rest =>
          rw [hFrame] at hReads hPayloads
          rcases result with _ | error | payload
          · obtain ⟨last, hRuns, hStop, hResult⟩ := hReads
            refine ⟨last, cluster, socket, [], hRuns, hStop, ⟨site, by rwa [← hOutlet]⟩, by simp, ?_⟩
            rw [hPayloads.1, hPayloads.2, hResult]
            exact Served.nothing
          · obtain ⟨last, hRuns, hStop, hResult⟩ := runs_error hReads
            refine ⟨last, cluster, socket, [], hRuns, hStop, ⟨site, by rwa [← hOutlet]⟩, by simp, ?_⟩
            have hEnd : feed.payloads connection.maxMessageSize = [] ∧
                feed.conclusion connection.maxMessageSize =
                  some (if error = .closed then .ok () else .error error) := by
              cases error <;> exact hPayloads
            rw [hEnd.1, hEnd.2, hResult]
            exact Served.nothing
          · change Runs _ (receive ⟨index, .feed rest, .reading .start⟩ cluster connection payload)
              at hReads
            simp only at hPayloads
            rw [hPayloads.1, hPayloads.2]
            have hLess : rest.weight < weight := hWeight ▸ Feed.weight_finishFrame_lt hFrame
            by_cases hRequest : ∃ processor groups, Message.decode connection.version payload =
                .ok (.configurationRequest processor groups)
            · obtain ⟨processor, groups, hDecode⟩ := hRequest
              rw [Cluster.responses_request hDecode]
              obtain ⟨cache, after, socketNext, hIdleNext, hLocator, hNext, hSent⟩ :=
                runs_request hIdle hSignal hAccepting hOutlet hDecode (.feed rest) (.reading .start)
              split at hSent
              · next sent hPrepare =>
                obtain ⟨hAccepted, hRunsNext⟩ := hSent
                obtain ⟨last, final, socketLast, bytes, hRuns, hStop, hIdleLast, hAcceptedLast,
                    hServed⟩ :=
                  ih rest.weight hLess hIdleNext hSignal hNext rfl rest rfl
                refine ⟨last, final, socketLast, frame sent ++ bytes,
                  (hReads.trans hRunsNext).trans hRuns, hStop, hIdleLast, ?_, ?_⟩
                · rw [hAcceptedLast, hAccepted, List.append_assoc]
                · rw [← Cluster.responses_congr hLocator]
                  exact hServed.of_outlet.cons hPrepare
              · next error hPrepare =>
                obtain ⟨hAccepted, hRunsNext⟩ := hSent
                exact ⟨_, after, socketNext, [], hReads.trans hRunsNext,
                  by simp [step, hIdleNext.here],
                  ⟨_, hIdleNext⟩, by simp [hAccepted], Served.refused hPrepare⟩
            · have hOther : ∀ processor groups, Message.decode connection.version payload ≠
                  .ok (.configurationRequest processor groups) :=
                fun processor groups hDecode => hRequest ⟨processor, groups, hDecode⟩
              rw [receive_other hOther] at hReads
              rw [Cluster.responses_other hOther]
              obtain ⟨last, final, socketLast, bytes, hRuns, hLast⟩ :=
                ih rest.weight hLess hIdle hSignal hAccepting hOutlet rest rfl
              exact ⟨last, final, socketLast, bytes, hReads.trans hRuns, hLast⟩

/-- If every response can be sent, all requests are answered in the order in which they came in,
nothing else is written, and the serving ends as the frames do that were read. -/
theorem answers_requests (hIdle : cluster.Idle index connection site)
    (hSignal : site.signal.reason = none) (hAccepting : socket.Accepting)
    (hOutlet : connection.outlet = .socket socket) (feed : Feed) (hEnding : feed.ending ≠ .silent)
    (hFits : ∀ response ∈ cluster.responses connection.site connection.version
        (feed.payloads connection.maxMessageSize), ∃ payload,
      response.encode connection.version = .ok payload ∧
        payload.length ≤ connection.maxMessageSize) :
    ∃ (last : Serving) (after : Cluster) (payloads : List Bytes),
      Runs ({ connection := index, inlet := .feed feed }, cluster) (last, after) ∧
      (cluster.responses connection.site connection.version
        (feed.payloads connection.maxMessageSize)).map (·.encode connection.version) =
          payloads.map .ok ∧
      after.accepted index = cluster.accepted index ++ payloads.flatMap frame ∧
      last.result? = some (match (feed.frames connection.maxMessageSize).getLast? with
        | some (.error error) => .error (.frame error)
        | _ => .ok ()) := by
  obtain ⟨last, after, socketNext, bytes, hRuns, -, ⟨siteNext, hIdleLast⟩, hAccepted, hServed⟩ :=
    runs_frames hIdle hSignal hAccepting hOutlet feed
  rw [Cluster.accepted_eq hIdle.here hOutlet]
  have hAccepted := (Cluster.accepted_eq hIdleLast.here rfl).trans hAccepted
  have hConclusion : (feed.conclusion connection.maxMessageSize).map
      (·.mapError ExchangeError.frame) =
        some (match (feed.frames connection.maxMessageSize).getLast? with
          | some (.error error) => .error (.frame error)
          | _ => .ok ()) := by
    unfold Feed.conclusion
    rcases (feed.frames connection.maxMessageSize).getLast? with _ | error | payload <;>
      simp [hEnding, Except.mapError]
  rw [← hConclusion]
  generalize hResult : last.result? = result at hServed
  cases hServed with
  | @all payloads hPayloads =>
      exact ⟨last, after, payloads, hRuns, Connection.map_encode hPayloads, hAccepted, hResult⟩
  | @upTo answered rest refused payloads error hResponses hPayloads hRefused =>
      obtain ⟨payload, hEncode, hSize⟩ := hFits refused (by simp [hResponses])
      rw [Connection.prepare_eq_ok.2 ⟨hEncode, hSize⟩] at hRefused
      cases hRefused

/-! ### A member that hands out one group -/

/-- Its site, where a source is published. -/
def counterSite : Site :=
  { Site.ofSettings ⟨.v4 (.replicate 4 127) 40404, 1⟩ {} with
    service := { enabled := true, phase := .running, published := some 0 } }

/-- Its connection to another member, over a socket that takes three bytes first. -/
def counterConnection (limit : Nat) : Connection where
  site := 0
  remote := ⟨.v4 (.replicate 4 127) 40405, 2⟩
  version := .v2
  outlet := .socket { script := { writes := [.accept 3] } }
  acquireTimeout := 5000000
  maxMessageSize := limit

/-- The member, with a group that has one file. -/
def counter (file : String) (limit : Nat) : Cluster where
  sites := [counterSite]
  sources := [{ source := .store (.ofGroups [{ name := "web", jars := NameMap.insert ∅ file () }]) }]
  connections := [counterConnection limit]

/-- A request for that group. -/
def asking (processor : UInt32) : Bytes :=
  ((Message.configurationRequest processor (NameMap.insert ∅ "web" ())).encoding .v2).bytes

theorem idle_counter (file : String) (limit : Nat) :
    (counter file limit).Idle 0 (counterConnection limit) counterSite :=
  ⟨rfl, rfl, _, rfl, ⟨rfl, rfl⟩, by decide⟩

theorem accepting_counter : Socket.Accepting { script := { writes := [.accept 3] } } where
  writes := by
    intro action hAction
    rw [List.mem_singleton] at hAction
    exact .inr ⟨3, by decide, hAction⟩
  flushes := by
    intro action hAction
    cases hAction

/-- Two requests with something else between them, in pieces. -/
theorem answers_two_requests :
    let cluster := counter "a.jar" 200
    let feed : Feed := ⟨[(frame (asking 7)).take 3, (frame (asking 7)).drop 3 ++ frame [1],
      frame (asking 8)], .ended⟩
    feed.ending ≠ .silent ∧ feed.payloads 200 = [asking 7, [1], asking 8] ∧
      ∃ (last : Serving) (after : Cluster) (payloads : List Bytes),
        Runs ({ connection := 0, inlet := .feed feed }, cluster) (last, after) ∧
        (cluster.responses 0 .v2 (feed.payloads 200)).map (·.encode .v2) = payloads.map .ok ∧
        payloads.length = 2 ∧
        after.accepted 0 = cluster.accepted 0 ++ payloads.flatMap frame ∧
        last.result? = some (.ok ()) := by
  intro cluster feed
  have hPayloads : feed.payloads 200 = [asking 7, [1], asking 8] := by decide +kernel
  have hEnd : (feed.frames 200).getLast? = some (.ok (asking 8)) := by decide +kernel
  have hCount : (cluster.responses 0 .v2 (feed.payloads 200)).length = 2 := by decide +kernel
  have hSendable : ∀ response ∈ cluster.responses 0 .v2 (feed.payloads 200),
      ((counterConnection 200).prepare response.encoding).toOption.isSome := by decide +kernel
  have hFits : ∀ response ∈ cluster.responses 0 .v2 (feed.payloads 200), ∃ payload,
      response.encode .v2 = .ok payload ∧ payload.length ≤ 200 := by
    intro response hResponse
    have hSome := hSendable response hResponse
    cases hPrepare : (counterConnection 200).prepare response.encoding with
    | error error => simp [hPrepare, Except.toOption] at hSome
    | ok payload =>
        have hPayload := Connection.prepare_eq_ok.1 hPrepare
        exact ⟨payload, hPayload⟩
  obtain ⟨last, after, payloads, hRuns, hEncode, hAccepted, hResult⟩ :=
    answers_requests (idle_counter "a.jar" 200) rfl accepting_counter rfl feed (by decide) hFits
  change (cluster.responses 0 .v2 (feed.payloads 200)).map (·.encode .v2) = _ at hEncode
  refine ⟨by decide, hPayloads, last, after, payloads, hRuns, hEncode, ?_, hAccepted, ?_⟩
  · have hLengths := congrArg List.length hEncode
    rw [List.length_map, List.length_map, hCount] at hLengths
    exact hLengths.symm
  · rw [hResult]
    change some (match (feed.frames 200).getLast? with
      | some (.error error) => Except.error (ExchangeError.frame error)
      | _ => .ok ()) = some (.ok ())
    rw [hEnd]

/-- Whatever the responses are, they are sent in the order of the requests, up to the first that
cannot be written or is too large. Of that one nothing is written, it ends the serving, and what was
asked after it is not answered. -/
theorem answers_until_refused (hIdle : cluster.Idle index connection site)
    (hSignal : site.signal.reason = none) (hAccepting : socket.Accepting)
    (hOutlet : connection.outlet = .socket socket) (feed : Feed) :
    ∃ (last : Serving) (after : Cluster) (answered unanswered : List Message)
        (payloads : List Bytes),
      Runs ({ connection := index, inlet := .feed feed }, cluster) (last, after) ∧
      last.step after = none ∧
      cluster.responses connection.site connection.version
        (feed.payloads connection.maxMessageSize) = answered ++ unanswered ∧
      answered.map (·.encode connection.version) = payloads.map .ok ∧
      after.accepted index = cluster.accepted index ++ payloads.flatMap frame ∧
      match unanswered with
      | [] => last.result? =
          (feed.conclusion connection.maxMessageSize).map (·.mapError ExchangeError.frame)
      | refused :: _ => ∃ error, connection.prepare refused.encoding = .error error ∧
          last.result? = some (.error (.reply (connection.refusal error))) := by
  obtain ⟨last, after, socketNext, bytes, hRuns, hStop, ⟨siteNext, hIdleLast⟩, hAccepted,
      hServed⟩ :=
    runs_frames hIdle hSignal hAccepting hOutlet feed
  rw [Cluster.accepted_eq hIdle.here hOutlet]
  have hAccepted := (Cluster.accepted_eq hIdleLast.here rfl).trans hAccepted
  generalize hResult : last.result? = result at hServed
  cases hServed with
  | @all payloads hPayloads =>
      exact ⟨last, after, _, [], payloads, hRuns, hStop, (List.append_nil _).symm,
        Connection.map_encode hPayloads, hAccepted, hResult⟩
  | @upTo answered rest refused payloads error hResponses hPayloads hRefused =>
      exact ⟨last, after, answered, refused :: rest, payloads, hRuns, hStop, hResponses,
        Connection.map_encode hPayloads, hAccepted, error, hRefused, hResult⟩

/-- A request that is answered, after which nothing comes: the serving waits for more. -/
theorem answers_before_silence :
    let cluster := counter "a.jar" 200
    let feed : Feed := ⟨[frame (asking 7)], .silent⟩
    ∃ (last : Serving) (after : Cluster) (payload : Bytes),
      Runs ({ connection := 0, inlet := .feed feed }, cluster) (last, after) ∧
      last.step after = none ∧ last.result? = none ∧
      (cluster.responses 0 .v2 [asking 7]).map (·.encode .v2) = [.ok payload] ∧
      after.accepted 0 = cluster.accepted 0 ++ frame payload := by
  intro cluster feed
  have hPayloads : feed.payloads 200 = [asking 7] := by decide +kernel
  have hConclusion : feed.conclusion 200 = none := by decide +kernel
  have hCount : (cluster.responses 0 .v2 [asking 7]).length = 1 := by decide +kernel
  have hSendable : ∀ response ∈ cluster.responses 0 .v2 [asking 7],
      ((counterConnection 200).prepare response.encoding).toOption.isSome := by decide +kernel
  obtain ⟨last, after, answered, unanswered, payloads, hRuns, hStop, hResponses, hEncode, hAccepted,
    hResult⟩ := answers_until_refused (idle_counter "a.jar" 200) rfl accepting_counter rfl feed
  change cluster.responses 0 .v2 (feed.payloads 200) = _ at hResponses
  rw [hPayloads] at hResponses
  cases unanswered with
  | cons refused rest =>
      obtain ⟨error, hRefused, -⟩ := hResult
      have hSome := hSendable refused (by simp [hResponses])
      rw [hRefused] at hSome
      cases hSome
  | nil =>
      rw [List.append_nil] at hResponses
      subst hResponses
      have hLengths := congrArg List.length hEncode
      rw [List.length_map, List.length_map, hCount] at hLengths
      obtain ⟨payload, rfl⟩ := List.length_eq_one_iff.1 hLengths.symm
      refine ⟨last, after, payload, hRuns, hStop, ?_, hEncode, by simpa using hAccepted⟩
      change last.result? = (feed.conclusion 200).map (·.mapError ExchangeError.frame) at hResult
      rw [hResult, hConclusion]
      rfl

/-- Where the first response is too large, neither request is answered, and the serving ends, though
a short answer to either would fit. -/
theorem unanswered_after_too_large :
    let cluster := counter (String.ofList (List.replicate 80 'a')) 64
    let feed : Feed := ⟨[frame (asking 7), frame (asking 8)], .ended⟩
    let failure (processor : UInt32) : Message :=
      .configurationResponse processor (.failed "too large")
    feed.payloads 64 = [asking 7, asking 8] ∧
      ((counterConnection 64).prepare (failure 7).encoding).toOption.isSome ∧
      ((counterConnection 64).prepare (failure 8).encoding).toOption.isSome ∧
      ∃ (last : Serving) (after : Cluster) (error : ReplyError),
        Runs ({ connection := 0, inlet := .feed feed }, cluster) (last, after) ∧
        last.step after = none ∧ after.accepted 0 = [] ∧
        last.result? = some (.error (.reply error)) := by
  intro cluster feed failure
  have hPayloads : feed.payloads 64 = [asking 7, asking 8] := by decide +kernel
  refine ⟨hPayloads, by decide +kernel, by decide +kernel, ?_⟩
  have hCount : (cluster.responses 0 .v2 [asking 7, asking 8]).length = 2 := by decide +kernel
  have hTooLarge : ∀ response ∈ cluster.responses 0 .v2 [asking 7, asking 8],
      ((counterConnection 64).prepare response.encoding).toOption = none := by decide +kernel
  obtain ⟨last, after, socketNext, bytes, hRuns, hStop, ⟨siteNext, hIdleLast⟩, hAccepted,
      hServed⟩ :=
    runs_frames (idle_counter (String.ofList (List.replicate 80 'a')) 64) rfl accepting_counter
      rfl feed
  change Served (counterConnection 64) (cluster.responses 0 .v2 (feed.payloads 64)) _ _ _ at hServed
  rw [hPayloads] at hServed
  cases hResponses : cluster.responses 0 .v2 [asking 7, asking 8] with
  | nil => simp [hResponses] at hCount
  | cons response rest =>
      have hNone := hTooLarge response (by simp [hResponses])
      cases hPrepare : (counterConnection 64).prepare response.encoding with
      | ok payload => simp [hPrepare, Except.toOption] at hNone
      | error error =>
          rw [hResponses] at hServed
          obtain ⟨rfl, hResult⟩ := hServed.eq_of_refused hPrepare
          exact ⟨last, after, _, hRuns, hStop,
            (Cluster.accepted_eq hIdleLast.here rfl).trans hAccepted, hResult⟩

end Serving

end ConfigExchange
