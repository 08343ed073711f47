import ConfigExchange.Exchange.Reply
import ConfigExchange.Proofs.Cluster.Log

/-! Sends as events. A step of a send is made of what any user of a connection may do, so whatever
holds along every run also holds while messages and replies are sent. -/
namespace ConfigExchange

open Cluster

namespace Transmission

/-- What a step of a transmission does to the cluster. -/
def events (cluster : Cluster) : Transmission → List Event
  | starting connection _ => [.openWriter connection]
  | acquiring writer message =>
    match cluster.sessions[writer]? with
    | some (.writer index (.opened _)) =>
      match cluster.connections[index]? with
      | none => [.flush writer]
      | some connection =>
        let encoding := message connection.version
        match encoding.error with
        | none => [.append writer encoding.appends, .flush writer]
        | some _ => [.append writer encoding.appends, .drop writer]
    | some (.writer _ (.finished (.error _))) => []
    | _ => [.step writer]
  | flushing writer =>
    match cluster.sessions[writer]? with
    | some (.writer _ (.finished _)) => []
    | _ => [.step writer]
  | finished _ => []

/-- Giving a transmission up. -/
def dropEvents : Transmission → List Event
  | acquiring writer _ | flushing writer => [.drop writer]
  | starting .. | finished _ => []

theorem run_step (cluster : Cluster) (writer : SessionId) (next : Transmission) :
    cluster.run [.step writer] =
      (((cluster.step writer).map fun cluster => (next, cluster)).map (·.2)).getD cluster := by
  show (cluster.step writer).getD cluster = _
  cases cluster.step writer <;> rfl

theorem run_events (cluster : Cluster) (transmission : Transmission) :
    cluster.run (transmission.events cluster) =
      ((transmission.step cluster).map (·.2)).getD cluster := by
  cases transmission with
  | starting connection message => rfl
  | acquiring writer message =>
      rcases hSession : cluster.sessions[writer]? with _ | ⟨index, stage⟩ | _ | _
      · simpa only [events, step, hSession] using run_step cluster writer _
      · cases stage with
        | opened buffer =>
            simp only [events, step, hSession, Cluster.encode]
            cases cluster.connections[index]? with
            | none => rfl
            | some connection =>
                simp only [Encoding.result]
                cases (message connection.version).error <;> rfl
        | finished result =>
            cases result with
            | error error =>
                simp only [events, step, hSession]
                rfl
            | ok => simpa only [events, step, hSession] using run_step cluster writer _
        | _ => simpa only [events, step, hSession] using run_step cluster writer _
      · simpa only [events, step, hSession] using run_step cluster writer _
      · simpa only [events, step, hSession] using run_step cluster writer _
  | flushing writer =>
      rcases hSession : cluster.sessions[writer]? with _ | ⟨index, stage⟩ | _ | _
      · simpa only [events, step, hSession] using run_step cluster writer _
      · cases stage with
        | finished result =>
            simp only [events, step, hSession]
            rfl
        | _ => simpa only [events, step, hSession] using run_step cluster writer _
      · simpa only [events, step, hSession] using run_step cluster writer _
      · simpa only [events, step, hSession] using run_step cluster writer _
  | finished result => rfl

theorem run_dropEvents (cluster : Cluster) (transmission : Transmission) :
    cluster.run transmission.dropEvents = transmission.drop cluster := by
  cases transmission <;> rfl

variable {cluster later : Cluster} {index : Nat} {writer : SessionId} {stage : WriterStage}
  {message : Encodable} {next : Transmission}

/-- What a step towards a filled buffer can be. -/
theorem acquiring_cases (hStage : cluster.stage? index writer = some stage)
    (hStep : (acquiring writer message).step cluster = some (next, later)) :
    (next = .flushing writer ∧ (∃ buffer, stage = .opened buffer) ∧
        ∀ connection, cluster.connections[index]? = some connection →
          (message connection.version).error = none ∧
            (acquiring writer message).events cluster =
              [.append writer (message connection.version).appends, .flush writer]) ∨
      (∃ error pieces, next = .finished (.error (.encode error)) ∧
        (∃ buffer, stage = .opened buffer) ∧
        (acquiring writer message).events cluster = [.append writer pieces, .drop writer]) ∨
      (∃ error, stage = .finished (.error error) ∧
        next = .finished (.error (.connection error)) ∧
        (acquiring writer message).events cluster = []) ∨
      (∀ buffer, stage ≠ .opened buffer) ∧ next = .acquiring writer message ∧
        (acquiring writer message).events cluster = [.step writer] := by
  have hSession := stage?_eq_some.1 hStage
  have hWaits : ∀ {later}, (cluster.step writer).map (fun cluster =>
      (acquiring writer message, cluster)) = some (next, later) →
      next = .acquiring writer message := by
    intro later hNext
    obtain ⟨_, -, hNext⟩ := Option.map_eq_some_iff.1 hNext
    cases hNext
    rfl
  cases stage with
  | opened buffer =>
      simp only [step, events, hSession, Cluster.encode] at hStep ⊢
      split at hStep
      · next after hEncode =>
        cases hStep
        refine .inl ⟨rfl, ⟨buffer, rfl⟩, fun connection hConnection => ?_⟩
        simp only [hConnection, Encoding.result] at hEncode ⊢
        cases hError : (message connection.version).error with
        | none => exact ⟨rfl, rfl⟩
        | some found =>
            rw [hError] at hEncode
            cases hEncode
      · next error after hEncode =>
        cases hStep
        refine .inr (.inl ⟨error, ?_⟩)
        cases hConnection : cluster.connections[index]? with
        | none =>
            rw [hConnection] at hEncode
            cases hEncode
        | some connection =>
            simp only [hConnection, Encoding.result] at hEncode ⊢
            cases hError : (message connection.version).error with
            | none =>
                rw [hError] at hEncode
                cases hEncode
            | some found => exact ⟨_, trivial, ⟨buffer, rfl⟩, rfl⟩
  | finished result =>
      cases result with
      | error error =>
          simp only [step, events, hSession] at hStep ⊢
          cases hStep
          exact .inr (.inr (.inl ⟨error, rfl, rfl, trivial⟩))
      | ok =>
          simp only [step, events, hSession] at hStep ⊢
          refine .inr (.inr (.inr ⟨fun buffer hBuffer => ?_, hWaits hStep, trivial⟩))
          cases hBuffer
  | _ =>
      simp only [step, events, hSession] at hStep ⊢
      refine .inr (.inr (.inr ⟨fun buffer hBuffer => ?_, hWaits hStep, trivial⟩))
      cases hBuffer

/-- What a step of the sending of a buffer can be. -/
theorem flushing_cases (hStage : cluster.stage? index writer = some stage)
    (hStep : (flushing writer).step cluster = some (next, later)) :
    (∃ result, stage = .finished result ∧ next = .finished (result.mapError .connection) ∧
      (flushing writer).events cluster = []) ∨
      next = .flushing writer ∧ (flushing writer).events cluster = [.step writer] := by
  have hSession := stage?_eq_some.1 hStage
  cases stage with
  | finished result =>
      simp only [step, events, hSession] at hStep ⊢
      cases hStep
      exact .inl ⟨result, rfl, rfl, trivial⟩
  | _ =>
      simp only [step, events, hSession] at hStep ⊢
      obtain ⟨_, -, hNext⟩ := Option.map_eq_some_iff.1 hStep
      cases hNext
      exact .inr ⟨rfl, trivial⟩

/-- Every event of a transmission that has a writer is one of that writer. -/
theorem subject_acquiring (cluster : Cluster) (writer : SessionId) (message : Encodable) :
    ∀ event ∈ (acquiring writer message).events cluster, event.subject? = some writer := by
  intro event hEvent
  simp only [events] at hEvent
  repeat' split at hEvent
  all_goals simp only [List.mem_cons, List.not_mem_nil, or_false] at hEvent
  · rw [hEvent]
    rfl
  · rcases hEvent with rfl | rfl <;> rfl
  · rcases hEvent with rfl | rfl <;> rfl
  · rw [hEvent]
    rfl

theorem subject_flushing (cluster : Cluster) (writer : SessionId) :
    ∀ event ∈ (flushing writer).events cluster, event.subject? = some writer := by
  intro event hEvent
  unfold events at hEvent
  simp only at hEvent
  split at hEvent
  · cases hEvent
  · cases List.mem_singleton.1 hEvent
    rfl

end Transmission

namespace Delivery

/-- What a step of an attempt to send a reply does to the cluster. -/
def events (cluster : Cluster) : Delivery → List Event
  | sending _ transmission => transmission.events cluster
  | starting .. | finished .. => []

/-- Giving an attempt up. -/
def dropEvents : Delivery → List Event
  | sending _ transmission => transmission.dropEvents
  | starting .. | finished .. => []

theorem run_events (cluster : Cluster) (delivery : Delivery) :
    cluster.run (delivery.events cluster) = ((delivery.step cluster).map (·.2)).getD cluster := by
  cases delivery with
  | starting sender message =>
      simp only [events, step]
      split
      · rfl
      · split <;> rfl
  | sending sender transmission =>
      have hRun := transmission.run_events cluster
      cases transmission with
      | finished result => rfl
      | _ =>
          simp only [events, step, Transmission.result?, Option.map_map]
          exact hRun
  | finished sender result => rfl

theorem run_dropEvents (cluster : Cluster) (delivery : Delivery) :
    cluster.run delivery.dropEvents = delivery.drop cluster := by
  cases delivery with
  | sending sender transmission => exact transmission.run_dropEvents cluster
  | _ => rfl

end Delivery

/-- What the users of a cluster do: single events, and steps of sends, which may be given up. -/
inductive Act where
  | event (single : Event)
  | deliver (delivery : Delivery)
  | abandon (delivery : Delivery)

def Act.events (cluster : Cluster) : Act → List Event
  | event single => [single]
  | deliver delivery => delivery.events cluster
  | abandon delivery => delivery.dropEvents

namespace Watch

variable {index : Nat}

def act (index : Nat) (watch : Watch) (act : Act) : Watch :=
  watch.run index (act.events watch.cluster)

def runActs (index : Nat) (watch : Watch) (acts : List Act) : Watch := acts.foldl (act index) watch

theorem cluster_run (watch : Watch) (events : List Event) :
    (watch.run index events).cluster = watch.cluster.run events := by
  induction events generalizing watch with
  | nil => rfl
  | cons first rest ih => exact ih (watch.perform index first)

/-- A watched send does what it does when nobody watches. -/
theorem cluster_deliver (watch : Watch) (delivery : Delivery) :
    (watch.act index (.deliver delivery)).cluster =
      ((delivery.step watch.cluster).map (·.2)).getD watch.cluster :=
  (cluster_run watch _).trans (delivery.run_events watch.cluster)

theorem cluster_abandon (watch : Watch) (delivery : Delivery) :
    (watch.act index (.abandon delivery)).cluster = delivery.drop watch.cluster :=
  (cluster_run watch _).trans (delivery.run_dropEvents watch.cluster)

theorem Sound.runActs {watch : Watch} {connection : Connection} {socket : Socket}
    (hSound : Sound index watch connection socket) (acts : List Act) :
    ∃ next later, Sound index (watch.runActs index acts) next later := by
  induction acts generalizing watch connection socket with
  | nil => exact ⟨connection, socket, hSound⟩
  | cons first rest ih =>
      obtain ⟨next, later, hNext⟩ := hSound.run (first.events watch.cluster)
      exact ih hNext

/-- Whatever is done on a connection and wherever its socket fails, the socket has accepted what the
log says: of each frame that was begun some bytes from the front, one frame after the other. A frame
that was cut short before another was begun is that of a writer that failed. The stream is made of
whole frames, up to one that may be cut off at its end, exactly if no writer gets a byte accepted
after one that failed part way; nothing on the connection keeps a later writer from that. -/
theorem accepted_of_acts {start : Cluster} (hFresh : Fresh index start) (acts : List Act) :
    let watch := runActs index ⟨start, []⟩ acts
    watch.cluster.accepted index = watch.log.flatMap Attempt.bytes ∧
      (∀ attempt ∈ watch.log, attempt.sent ≤ attempt.size) ∧
      (watch.log.Pairwise fun earlier _ => earlier.Torn →
        ∃ stage, watch.cluster.stage? index earlier.writer = some stage ∧ stage.Failed) ∧
      (Framed watch.log ↔
        watch.log.Pairwise fun earlier later => earlier.Torn → later.sent = 0) := by
  intro watch
  obtain ⟨connection, socket, hStart⟩ := hFresh.sound
  obtain ⟨next, later, hSound⟩ := hStart.runActs acts
  refine ⟨?_, hSound.ledger.within, ?_, framed_iff hSound.ledger.within⟩
  · rw [Cluster.accepted_eq hSound.present hSound.outlet]
    exact hSound.ledger.accepted
  · refine List.pairwise_of_forall_sublist fun {earlier later} hPair hTorn => ?_
    obtain ⟨stage, hStage, hFailed | ⟨-, hWhole⟩⟩ := hSound.ledger.settled hPair
    · exact ⟨stage, hStage, hFailed⟩
    · exact absurd hWhole (Nat.ne_of_lt hTorn.2)

/-- A cluster with one connection, whose socket does what it is told. -/
def lone (script : SocketScript) : Cluster where
  sites := [.ofSettings ⟨.v4 (.replicate 4 127) 40404, 1⟩ {}]
  connections := [{
    site := 0
    remote := ⟨.v4 (.replicate 4 127) 40405, 2⟩
    version := .v2
    outlet := .socket { script }
    acquireTimeout := 5000000
    maxMessageSize := 1024 }]

theorem fresh_lone (script : SocketScript) : Fresh 0 (lone script) where
  connection := ⟨_, script, rfl, rfl⟩
  unused := fun _ => rfl

/-- All that a writer does to send a payload, in so many steps on the stream. -/
def sendOnce (id : SessionId) (payload : Bytes) (steps : Nat) : List Act :=
  let obtain : List Event := [.openWriter 0, .step id, .step id, .step id]
  let send : List Event := [.append id [payload], .flush id] ++ List.replicate steps (.step id)
  (obtain ++ send).map .event

/-- Two writers that send one frame each, of which the socket takes a few bytes at a time. -/
theorem accepted_of_two_writers :
    let start := lone { writes := [.accept 2, .accept 1] }
    let watch := runActs 0 ⟨start, []⟩ (sendOnce 0 [7, 8] 5 ++ sendOnce 1 [9] 3)
    Fresh 0 start ∧ watch.log = [⟨0, [7, 8], 6⟩, ⟨1, [9], 5⟩] ∧
      watch.cluster.accepted 0 = watch.log.flatMap Attempt.bytes ∧
      (Framed watch.log ↔
        watch.log.Pairwise fun earlier later => earlier.Torn → later.sent = 0) := by
  have hFresh := fresh_lone { writes := [.accept 2, .accept 1] }
  obtain ⟨hAccepted, -, -, hFramed⟩ :=
    accepted_of_acts hFresh (sendOnce 0 [7, 8] 5 ++ sendOnce 1 [9] 3)
  exact ⟨hFresh, by decide +kernel, hAccepted, hFramed⟩

/-- The bytes of these frames with two bytes before them are not such frames, one after the other,
up to one that is cut off. -/
theorem not_frames_of_torn (whole : List Bytes) (cut : Bytes) (count : Nat)
    (hWhole : ∀ payload ∈ whole, payload ∈ [[1], [2]]) (hCut : cut ∈ [[1], [2]])
    (hCount : count < (frame cut).length) :
    [0, 0] ++ frame [2] ≠ whole.flatMap frame ++ (frame cut).take count := by
  intro hEq
  have hLong : (frame cut).length = 5 := by
    simp only [List.mem_cons, List.not_mem_nil, or_false] at hCut
    rcases hCut with rfl | rfl <;> rfl
  cases whole with
  | nil =>
      have hLength := congrArg List.length hEq
      simp only [List.flatMap_nil, List.nil_append, List.length_take] at hLength
      have hSeven : ([0, 0] ++ frame [2]).length = 7 := rfl
      omega
  | cons first rest =>
      -- The fourth byte of either frame is its length, and that of the stream is not.
      have hFourth := congrArg (·[3]?) hEq
      have hFirst := hWhole first List.mem_cons_self
      simp only [List.mem_cons, List.not_mem_nil, or_false] at hFirst
      have hFound : some (0 : UInt8) = some 1 := by
        rcases hFirst with rfl | rfl
        · exact hFourth
        · exact hFourth
      cases hFound

/-- After two bytes of a frame the stream breaks, and the next writer's frame is accepted behind
them. Who reads the stream takes the front of that frame for the rest of the first header. -/
theorem not_framed_after_partial_write :
    let start := lone { writes := [.accept 2, .fail .brokenPipe] }
    let watch := runActs 0 ⟨start, []⟩ (sendOnce 0 [1] 2 ++ sendOnce 1 [2] 3)
    Fresh 0 start ∧ watch.cluster.accepted 0 = [0, 0] ++ frame [2] ∧ ¬ Framed watch.log ∧
      ∀ (whole : List Bytes) (cut : Bytes) (count : Nat),
        (∀ payload ∈ whole, payload ∈ [[1], [2]]) → cut ∈ [[1], [2]] → count < (frame cut).length →
        watch.cluster.accepted 0 ≠ whole.flatMap frame ++ (frame cut).take count := by
  have hLog : (runActs 0 ⟨lone { writes := [.accept 2, .fail .brokenPipe] }, []⟩
      (sendOnce 0 [1] 2 ++ sendOnce 1 [2] 3)).log = [⟨0, [1], 2⟩, ⟨1, [2], 5⟩] := by
    decide +kernel
  have hAccepted : (runActs 0 ⟨lone { writes := [.accept 2, .fail .brokenPipe] }, []⟩
      (sendOnce 0 [1] 2 ++ sendOnce 1 [2] 3)).cluster.accepted 0 = [0, 0] ++ frame [2] := by
    decide +kernel
  refine ⟨fresh_lone _, hAccepted, ?_, ?_⟩
  · rw [hLog, framed_iff (by decide)]
    decide
  · intro whole cut count hWhole hCut hCount
    simp only [hAccepted]
    exact not_frames_of_torn whole cut count hWhole hCut hCount

end Watch

end ConfigExchange
