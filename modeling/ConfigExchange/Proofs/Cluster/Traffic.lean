import ConfigExchange.Proofs.Cluster.Parties
import ConfigExchange.Proofs.Cluster.Reply
import ConfigExchange.Proofs.Cluster.Serial

/-! Any number of sends at a time on one connection, among writers that are used by hand. Each send
has a writer of its own, so what others do leaves it alone, and its result says whether its frame
was sent. -/
namespace ConfigExchange

open Cluster

/-- Whether the message was sent, once that is known. -/
def Delivery.outcome? : Delivery → Option Bool
  | sending _ (.finished (.ok ())) | finished _ (.ok []) => some true
  | sending _ (.finished (.error _)) | finished _ _ => some false
  | _ => none

/-- A message was sent if the answer names nobody who was not reached. -/
theorem Delivery.answer_of_outcome {sender : Sender} {answer : Except ReplyError (List Member)}
    (hOutcome : (finished sender answer).outcome? = some true) : answer = .ok [] := by
  cases answer with
  | error error => cases hOutcome
  | ok members =>
      cases members with
      | nil => rfl
      | cons first rest => cases hOutcome

/-- One send: its message, how far it has come, and the writer it has opened. -/
structure Send where
  message : Encodable
  delivery : Delivery
  writer : Option SessionId := none

/-- One step of a send, which keeps in mind the writer it opens. -/
def Send.step (cluster : Cluster) (send : Send) : Option (Send × Cluster) :=
  (send.delivery.step cluster).map fun after =>
    let writer := (send.delivery.opens cluster).head?.or send.writer
    ({ send with delivery := after.1, writer }, after.2)

theorem Send.step_eq_some {cluster later : Cluster} {send next : Send}
    (hStep : send.step cluster = some (next, later)) :
    ∃ delivery, send.delivery.step cluster = some (delivery, later) ∧
      next = ⟨send.message, delivery, (send.delivery.opens cluster).head?.or send.writer⟩ := by
  obtain ⟨after, hAfter, hNext⟩ := Option.map_eq_some_iff.1 hStep
  cases hNext
  exact ⟨after.1, hAfter, rfl⟩

/-- All that has happened in a cluster, and the sends that are going on or are over. -/
abbrev Traffic := Parties Event Send

namespace Traffic

/-- Somebody sends a message on a connection, a send goes on or is given up, or something else
happens. -/
abbrev Move := Parties.Move Event (Sender × Encodable)

/-- What sends do on one connection. -/
def conduct (index : Nat) : Conduct Event (Sender × Encodable) Send where
  perform := Cluster.perform
  subject? := Event.subject?
  enter? := fun _ task => some
    { message := task.2, delivery := .starting { task.1 with connection := index } task.2 }
  step := fun cluster send => send.step cluster
  acts := fun cluster send => send.delivery.events cluster
  drop := fun cluster send => send.delivery.drop cluster
  dropActs := fun send => send.delivery.dropEvents
  writers := fun send => send.writer.toList

def run (index : Nat) (start : Cluster) (traffic : Traffic) (moves : List Move) : Traffic :=
  (conduct index).run start traffic moves

end Traffic

/-! ### What a history says of one writer -/

namespace Cluster

variable {start : Cluster} {index : Nat} {history : List Event} {writer : SessionId}
  {stage : WriterStage}

/-- The writers that have made an attempt to send a frame along a run. -/
def logged (index : Nat) (start : Cluster) (history : List Event) : List SessionId :=
  (Watch.run index ⟨start, []⟩ history).log.map (·.writer)

/-- A connection keeps its version. -/
theorem version_run {connection : Connection}
    (hConnection : start.connections[index]? = some connection) (history : List Event) :
    ∃ next, (start.run history).connections[index]? = some next ∧
      next.version = connection.version := by
  induction history using List.reverseRecOn with
  | nil => exact ⟨connection, hConnection, rfl⟩
  | append_singleton history event ih =>
      obtain ⟨found, hFound, hVersion⟩ := ih
      obtain ⟨next, hNext, hTurn⟩ := turn_perform hFound event
      rw [run_concat]
      exact ⟨next, hNext, hTurn.version.trans hVersion⟩

theorem Pristine.stage?_concat (hPristine : Pristine index start)
    (hStage : (start.run history).stage? index writer = some stage) (event : Event) :
    ∃ last, (start.run (history ++ [event])).stage? index writer = some last ∧
      (last = stage ∨ event.subject? = some writer ∧
        ∃ connection next, WriterTurn writer connection stage next last) := by
  obtain ⟨connection, -, hConnection, -⟩ := hPristine.connection
  obtain ⟨found, hFound, -⟩ := version_run hConnection history
  obtain ⟨next, -, hTurn⟩ := turn_perform hFound event
  obtain ⟨last, hLast, hWriter⟩ := hTurn.stage_after hStage
  rw [run_concat]
  exact ⟨last, hLast, hWriter.imp_right fun hOwn => ⟨hOwn.1, found, next, hOwn.2⟩⟩

/-- A writer makes its attempt in an event of its own, when it has filled its buffer and begins to
send it. -/
theorem mem_logged_concat {event : Event}
    (hLogged : writer ∈ start.logged index (history ++ [event])) :
    writer ∈ start.logged index history ∨ event.subject? = some writer ∧
      (∃ buffer, (start.run history).stage? index writer = some (.opened buffer)) ∧
      ∃ buffer rest, (start.run (history ++ [event])).stage? index writer =
        some (.sending buffer rest) := by
  rw [logged, Watch.run_concat] at hLogged
  rcases Watch.writers_perform index (Watch.run index ⟨start, []⟩ history) event with
    hSame | ⟨id, buffer, later, rest, hSubject, hStage, hLast, hMore⟩
  · rw [hSame] at hLogged
    exact .inl hLogged
  · rw [hMore] at hLogged
    rcases List.mem_append.1 hLogged with hOld | hNew
    · exact .inl hOld
    · cases List.mem_singleton.1 hNew
      rw [← Watch.run_concat, Watch.cluster_run] at hLast
      rw [Watch.cluster_run] at hStage
      exact .inr ⟨hSubject, ⟨buffer, hStage⟩, later, rest, hLast⟩

/-- Only what is appended to its buffer changes the contents of a writer. -/
theorem contents_concat_of_ne {event : Event} (hEvent : ∀ pieces, event ≠ .append writer pieces) :
    start.contents index (history ++ [event]) writer = start.contents index history writer := by
  rw [contents_concat]
  rcases piecesIn_cases index writer (start.run history) event with hNone | ⟨_, pieces, hEq, -⟩
  · rw [hNone]
    exact List.append_nil _
  · exact absurd hEq (hEvent pieces)

theorem contents_step (id : SessionId) :
    start.contents index (history ++ [.step id]) writer = start.contents index history writer :=
  contents_concat_of_ne fun _ hEvent => by cases hEvent

theorem contents_flush (id : SessionId) :
    start.contents index (history ++ [.flush id]) writer = start.contents index history writer :=
  contents_concat_of_ne fun _ hEvent => by cases hEvent

/-- What others do changes nothing of what is known of a writer. -/
theorem Pristine.others (hPristine : Pristine index start)
    (hStage : (start.run history).stage? index writer = some stage) {event : Event}
    (hEvent : event.subject? ≠ some writer) :
    (start.run (history ++ [event])).stage? index writer = some stage ∧
      start.contents index (history ++ [event]) writer = start.contents index history writer ∧
      (writer ∈ start.logged index (history ++ [event]) →
        writer ∈ start.logged index history) := by
  refine ⟨?_, contents_concat_of_ne ?_, fun hLogged => ?_⟩
  · obtain ⟨last, hLast, rfl | ⟨hOwn, -⟩⟩ := hPristine.stage?_concat hStage event
    · exact hLast
    · exact absurd hOwn hEvent
  · rintro pieces rfl
    exact hEvent rfl
  · exact (mem_logged_concat hLogged).resolve_right fun hOwn => hEvent hOwn.1

end Cluster

/-! ### One send -/

namespace Send

/-- What came of the writer of a send that is over: it has sent the message, or it was refused or
given up before it sent anything, or there was none. -/
inductive Ends (index : Nat) (start : Cluster) (version : Version) (history : List Event)
    (message : Encodable) : Bool → Option SessionId → Prop where
  | sent (writer : SessionId)
      (hStage : (start.run history).stage? index writer = some (.finished (.ok ())))
      (hContents : (message version).result = .ok (start.contents index history writer)) :
      Ends index start version history message true (some writer)
  | refused (writer : SessionId) (error : ConnectionError)
      (hStage : (start.run history).stage? index writer = some (.finished (.error error))) :
      Ends index start version history message false (some writer)
  | dropped (writer : SessionId)
      (hStage : (start.run history).stage? index writer = some .dropped)
      (hUnlogged : writer ∉ start.logged index history) :
      Ends index start version history message false (some writer)
  | unopened : Ends index start version history message false none

/-- How far a send has come, and what that says of its writer. -/
inductive Course (index : Nat) (start : Cluster) (version : Version) (history : List Event) :
    Send → Prop where
  | starting (sender : Sender) (message : Encodable) (hConnection : sender.connection = index) :
      Course index start version history ⟨message, .starting sender message, none⟩
  | opening (sender : Sender) (message : Encodable) :
      Course index start version history
        ⟨message, .sending sender (.starting index message), none⟩
  | acquiring (sender : Sender) (message : Encodable) (writer : SessionId)
      (hStage : ∃ stage, (start.run history).stage? index writer = some stage)
      (hUnlogged : writer ∉ start.logged index history)
      (hEmpty : start.contents index history writer = []) :
      Course index start version history
        ⟨message, .sending sender (.acquiring writer message), some writer⟩
  | flushing (sender : Sender) (message : Encodable) (writer : SessionId)
      (hStage : ∃ stage, (start.run history).stage? index writer = some stage)
      (hContents : (message version).result = .ok (start.contents index history writer)) :
      Course index start version history
        ⟨message, .sending sender (.flushing writer), some writer⟩
  | concluded {message : Encodable} {delivery : Delivery} {writer : Option SessionId}
      {success : Bool}
      (hOutcome : delivery.outcome? = some success)
      (hEnds : Ends index start version history message success writer) :
      Course index start version history ⟨message, delivery, writer⟩

variable {index : Nat} {start : Cluster} {version : Version} {history : List Event} {send : Send}

/-- The writer of a send is there. -/
theorem Course.present (hCourse : Course index start version history send) {writer : SessionId}
    (hWriter : send.writer = some writer) :
    ∃ stage, (start.run history).stage? index writer = some stage := by
  cases hCourse with
  | starting | opening => cases hWriter
  | acquiring _ _ _ hStage | flushing _ _ _ hStage =>
      cases hWriter
      exact hStage
  | concluded _ hEnds =>
      cases hEnds with
      | unopened => cases hWriter
      | sent _ hStage | refused _ _ hStage | dropped _ hStage =>
          cases hWriter
          exact ⟨_, hStage⟩

/-- What others do does not concern a send. -/
theorem Course.concat (hCourse : Course index start version history send)
    (hPristine : Pristine index start) {event : Event}
    (hEvent : ∀ writer, send.writer = some writer → event.subject? ≠ some writer) :
    Course index start version (history ++ [event]) send := by
  cases hCourse with
  | starting sender message hConnection => exact .starting sender message hConnection
  | opening sender message => exact .opening sender message
  | acquiring sender message writer hStage hUnlogged hEmpty =>
      obtain ⟨stage, hStage⟩ := hStage
      obtain ⟨hSame, hContents, hLogged⟩ := hPristine.others hStage (hEvent writer rfl)
      exact .acquiring sender message writer ⟨stage, hSame⟩ (fun hMem => hUnlogged (hLogged hMem))
        (hContents.trans hEmpty)
  | flushing sender message writer hStage hResult =>
      obtain ⟨stage, hStage⟩ := hStage
      obtain ⟨hSame, hContents, -⟩ := hPristine.others hStage (hEvent writer rfl)
      exact .flushing sender message writer ⟨stage, hSame⟩ (hContents ▸ hResult)
  | concluded hOutcome hEnds =>
      refine .concluded hOutcome ?_
      cases hEnds with
      | unopened => exact .unopened
      | sent writer hStage hResult =>
          obtain ⟨hSame, hContents, -⟩ := hPristine.others hStage (hEvent writer rfl)
          exact .sent writer hSame (hContents ▸ hResult)
      | refused writer error hStage =>
          exact .refused writer error (hPristine.others hStage (hEvent writer rfl)).1
      | dropped writer hStage hUnlogged =>
          obtain ⟨hSame, -, hLogged⟩ := hPristine.others hStage (hEvent writer rfl)
          exact .dropped writer hSame fun hMem => hUnlogged (hLogged hMem)

section Go

variable {connection : Connection} {sender : Sender} {message : Encodable} {writer : SessionId}
  {transmission : Transmission} {later : Cluster}

/-- A writer is opened. -/
theorem course_opening (hPristine : Pristine index start) :
    Course index start version (history ++ [.openWriter index])
      ⟨message, .sending sender (.acquiring (start.run history).sessions.length message),
        some (start.run history).sessions.length⟩ := by
  have hSessions : ((start.run history).perform (.openWriter index)).sessions =
    (start.run history).sessions ++ [.writer index .starting] := rfl
  obtain ⟨hNone, hStages⟩ := stage?_append index hSessions
  have hStarting : (start.run (history ++ [.openWriter index])).stage? index
      (start.run history).sessions.length = some .starting := by
    rw [run_concat, hStages, Function.update_self]
    exact if_pos rfl
  refine .acquiring sender message _ ⟨_, hStarting⟩ (fun hMem => ?_) ?_
  · obtain ⟨connection, socket, hSound⟩ := hPristine.sound_run (history ++ [.openWriter index])
    refine hSound.ledger.not_mem (fun stage hStage => ?_) hMem
    rw [Watch.cluster_run] at hStage
    cases hStarting.symm.trans hStage
    rfl
  · refine (hPristine.filled_run _).blank _ fun stage hStage => ?_
    cases hStarting.symm.trans hStage
    rfl

/-- A step towards a filled buffer. -/
theorem course_acquiring (hPristine : Pristine index start)
    (hConnection : start.connections[index]? = some connection)
    (hStage : ∃ stage, (start.run history).stage? index writer = some stage)
    (hUnlogged : writer ∉ start.logged index history)
    (hEmpty : start.contents index history writer = [])
    (hStep : (Transmission.acquiring writer message).step (start.run history) =
      some (transmission, later)) :
    Course index start connection.version
      (history ++ (Transmission.acquiring writer message).events (start.run history))
      ⟨message, .sending sender transmission, some writer⟩ := by
  obtain ⟨stage, hStage⟩ := hStage
  -- Nothing is sent in an event after which the writer does not send.
  have hStill : ∀ {history event}, writer ∉ start.logged index history →
      (∀ buffer rest, (start.run (history ++ [event])).stage? index writer ≠
        some (.sending buffer rest)) →
      writer ∉ start.logged index (history ++ [event]) := by
    intro history event hBefore hAfter hMem
    obtain ⟨-, -, buffer, rest, hLast⟩ := (mem_logged_concat hMem).resolve_left hBefore
    exact hAfter buffer rest hLast
  obtain ⟨rfl, ⟨buffer, rfl⟩, hFilled⟩ | ⟨error, pieces, rfl, ⟨buffer, rfl⟩, hEvents⟩ |
    ⟨error, rfl, rfl, hEvents⟩ | ⟨hWaits, rfl, hEvents⟩ :=
    Transmission.acquiring_cases hStage hStep
  · -- The message goes into the buffer, which had nothing in it.
    obtain ⟨found, hFound, hVersion⟩ := version_run hConnection history
    obtain ⟨hError, hEvents⟩ := hFilled found hFound
    rw [hVersion] at hError hEvents
    rw [hEvents, List.append_cons]
    have hOpened := stage?_append_pieces hStage (message connection.version).appends
    rw [← run_concat] at hOpened
    obtain ⟨last, hLast, -⟩ := hPristine.stage?_concat hOpened (.flush writer)
    refine .flushing sender message writer ⟨last, hLast⟩ ?_
    rw [contents_flush, contents_concat, hEmpty]
    simp [Encoding.result, hError, Encoding.bytes, piecesIn, hStage]
  · -- The message cannot be encoded, and the writer is given up before it sends.
    rw [hEvents, List.append_cons]
    have hOpened := stage?_append_pieces hStage pieces
    rw [← run_concat] at hOpened
    have hDropped := stage?_drop hOpened
    refine .concluded rfl (.dropped writer (by rw [run_concat]; exact hDropped) ?_)
    refine hStill (hStill hUnlogged fun later rest hLast => ?_) fun later rest hLast => ?_
    · cases hOpened.symm.trans hLast
    · rw [run_concat] at hLast
      cases hDropped.symm.trans hLast
  · rw [hEvents, List.append_nil]
    exact .concluded rfl (.refused writer error hStage)
  · -- The writer waits for the lock or for a buffer, so it sends nothing yet.
    rw [hEvents]
    obtain ⟨last, hLast, -⟩ := hPristine.stage?_concat hStage (.step writer)
    refine .acquiring sender message writer ⟨last, hLast⟩ (fun hMem => ?_) ?_
    · obtain ⟨-, ⟨buffer, hOpened⟩, -⟩ := (mem_logged_concat hMem).resolve_left hUnlogged
      cases hStage.symm.trans hOpened
      exact hWaits buffer rfl
    · rw [contents_step, hEmpty]

/-- A step of the sending of a buffer. -/
theorem course_flushing (hPristine : Pristine index start)
    (hStage : ∃ stage, (start.run history).stage? index writer = some stage)
    (hContents : (message version).result = .ok (start.contents index history writer))
    (hStep : (Transmission.flushing writer).step (start.run history) =
      some (transmission, later)) :
    Course index start version
      (history ++ (Transmission.flushing writer).events (start.run history))
      ⟨message, .sending sender transmission, some writer⟩ := by
  obtain ⟨stage, hStage⟩ := hStage
  obtain ⟨result, rfl, rfl, hEvents⟩ | ⟨rfl, hEvents⟩ := Transmission.flushing_cases hStage hStep
  · rw [hEvents, List.append_nil]
    cases result with
    | ok => exact .concluded rfl (.sent writer hStage hContents)
    | error error => exact .concluded rfl (.refused writer error hStage)
  · rw [hEvents]
    obtain ⟨last, hLast, -⟩ := hPristine.stage?_concat hStage (.step writer)
    refine .flushing sender message writer ⟨last, hLast⟩ ?_
    rw [contents_step, hContents]

/-- No answer to a failure says that the message was sent. -/
theorem outcome_conclude (sender : Sender) (error : SendError) (later : Sender) :
    (Delivery.finished later (sender.conclude (.error error)).1).outcome? = some false := by
  cases error with
  | encode error => rfl
  | connection error =>
      unfold Sender.conclude
      dsimp only
      split <;> split <;> rfl

/-- A send whose outcome is known does nothing more to the cluster. -/
theorem outcome_idle {delivery : Delivery} {success : Bool}
    (hOutcome : delivery.outcome? = some success) (cluster : Cluster) :
    delivery.events cluster = [] ∧ delivery.dropEvents = [] ∧ delivery.opens cluster = [] := by
  cases delivery with
  | starting => cases hOutcome
  | finished => exact ⟨rfl, rfl, rfl⟩
  | sending sender transmission =>
      cases transmission with
      | starting | acquiring | flushing => cases hOutcome
      | finished => exact ⟨rfl, rfl, rfl⟩

/-- It passes its outcome on. -/
theorem outcome_step {cluster : Cluster} {delivery next : Delivery} {success : Bool}
    (hOutcome : delivery.outcome? = some success)
    (hStep : delivery.step cluster = some (next, later)) : next.outcome? = some success := by
  cases delivery with
  | starting => cases hOutcome
  | finished => cases hStep
  | sending sender transmission =>
      cases transmission with
      | starting | acquiring | flushing => cases hOutcome
      | finished result =>
          cases hStep
          cases result with
          | ok => exact hOutcome
          | error error =>
              cases hOutcome
              exact outcome_conclude sender error _

/-- A step of a send leads from one point of its course to another. -/
theorem Course.go (hCourse : Course index start connection.version history send)
    (hPristine : Pristine index start)
    (hConnection : start.connections[index]? = some connection) {next : Delivery}
    (hStep : send.delivery.step (start.run history) = some (next, later)) :
    Course index start connection.version
      (history ++ send.delivery.events (start.run history))
      ⟨send.message, next, (send.delivery.opens (start.run history)).head?.or send.writer⟩ := by
  cases hCourse with
  | starting sender message hSender =>
      simp only [Delivery.events, List.append_nil]
      simp only [Delivery.step] at hStep
      split at hStep
      · cases hStep
        exact .concluded rfl .unopened
      · split at hStep
        · cases hStep
          exact .concluded rfl .unopened
        · cases hStep
          subst hSender
          exact .opening sender message
  | opening sender message =>
      cases hStep
      exact course_opening hPristine
  | acquiring sender message writer hStage hUnlogged hEmpty =>
      obtain ⟨⟨transmission, after⟩, hStep, hNext⟩ := Option.map_eq_some_iff.1 hStep
      cases hNext
      exact course_acquiring hPristine hConnection hStage hUnlogged hEmpty hStep
  | flushing sender message writer hStage hContents =>
      obtain ⟨⟨transmission, after⟩, hStep, hNext⟩ := Option.map_eq_some_iff.1 hStep
      cases hNext
      exact course_flushing hPristine hStage hContents hStep
  | @concluded message delivery writer success hOutcome hEnds =>
      obtain ⟨hEvents, -, hOpens⟩ := outcome_idle hOutcome (start.run history)
      rw [hEvents, hOpens, List.append_nil]
      exact .concluded (outcome_step hOutcome hStep) hEnds

end Go

/-- All that a send does is done by its writer. -/
theorem Course.owner (hCourse : Course index start version history send) (cluster : Cluster)
    {event : Event}
    (hEvent : event ∈ send.delivery.events cluster ∨ event ∈ send.delivery.dropEvents)
    {id : SessionId} (hSubject : event.subject? = some id) : send.writer = some id := by
  cases hCourse with
  | starting => rcases hEvent with hEvent | hEvent <;> cases hEvent
  | opening =>
      rcases hEvent with hEvent | hEvent
      · cases List.mem_singleton.1 hEvent
        cases hSubject
      · cases hEvent
  | acquiring sender message writer =>
      rcases hEvent with hEvent | hEvent
      · exact (Transmission.subject_acquiring cluster writer message event hEvent).symm.trans
          hSubject
      · cases List.mem_singleton.1 hEvent
        exact hSubject
  | flushing sender message writer =>
      rcases hEvent with hEvent | hEvent
      · exact (Transmission.subject_flushing cluster writer event hEvent).symm.trans hSubject
      · cases List.mem_singleton.1 hEvent
        exact hSubject
  | @concluded message delivery writer success hOutcome hEnds =>
      obtain ⟨hEvents, hDrops, -⟩ := outcome_idle hOutcome cluster
      rw [hEvents, hDrops] at hEvent
      rcases hEvent with hEvent | hEvent <;> cases hEvent

/-- A send keeps its writer, or opens the first one. -/
theorem Course.opens (hCourse : Course index start version history send) (cluster : Cluster) :
    send.delivery.opens cluster = [] ∨
      send.delivery.opens cluster = [cluster.sessions.length] ∧ send.writer = none := by
  cases hCourse with
  | opening => exact .inr ⟨rfl, rfl⟩
  | starting | acquiring | flushing => exact .inl rfl
  | concluded hOutcome => exact .inl (outcome_idle hOutcome cluster).2.2

end Send

/-! ### All sends -/

namespace Traffic

variable {index : Nat} {start : Cluster} {version : Version}

/-- The course of a send is kept by what others do, and its own steps lead on in it. -/
theorem keeps_course {connection : Connection} (hPristine : Pristine index start)
    (hConnection : start.connections[index]? = some connection) :
    (conduct index).Keeps start (Send.Course index start connection.version) where
  enters := by
    intro history task send hEnter
    cases hEnter
    exact ⟨.starting _ _ rfl, rfl⟩
  goes := by
    intro history send next later hCourse hStep
    obtain ⟨delivery, hDelivery, rfl⟩ := Send.step_eq_some hStep
    exact hCourse.go hPristine hConnection hDelivery
  others := fun hCourse hOthers =>
    hCourse.concat hPristine fun writer hWriter => hOthers writer (Option.mem_toList.2 hWriter)
  owner := fun hCourse hEvent hSubject => Option.mem_toList.2 (hCourse.owner _ hEvent hSubject)
  opens := by
    intro history send next later hCourse hStep
    obtain ⟨delivery, -, rfl⟩ := Send.step_eq_some hStep
    show Option.toList (Option.or _ _) = send.writer.toList ∨
      Option.toList (Option.or _ _) = _ :: send.writer.toList
    rcases hCourse.opens ((conduct index).after start history) with hNone | ⟨hOpens, hFirst⟩
    · rw [hNone]
      exact .inl rfl
    · rw [hOpens, hFirst]
      exact .inr rfl
  present := by
    intro history send writer hCourse hWriter
    obtain ⟨stage, hStage⟩ := hCourse.present (Option.mem_toList.1 hWriter)
    exact (List.getElem?_eq_some_iff.1 (stage?_eq_some.1 hStage)).1
  enacts := by
    intro history send next later _ hStep
    obtain ⟨delivery, hDelivery, -⟩ := Send.step_eq_some hStep
    refine (send.delivery.run_events _).trans ?_
    rw [hDelivery]
    rfl
  ends := fun cluster send => send.delivery.run_dropEvents cluster

/-- The frame of a message, sent as a whole by a writer that made no other attempt. -/
def SentOnce (log : List Attempt) (writer : SessionId) (payload : Bytes) : Prop :=
  (log.filter fun attempt => attempt.writer = writer) = [⟨writer, payload, (frame payload).length⟩]

instance (log : List Attempt) (writer : SessionId) (payload : Bytes) :
    Decidable (SentOnce log writer payload) :=
  inferInstanceAs (Decidable (_ = _))

/-- What a run leaves behind in which no call failed and no write was given up. -/
structure Undisturbed (index : Nat) (start : Cluster) (events : List Event) (log : List Attempt)
    (accepted : Bytes) : Prop where
  ledger : Ledger ((start.run events).stage? index) log accepted
  filled : Filled ((start.run events).stage? index) log (start.contents index events)
  settled : ∀ attempt ∈ log, Settled ((start.run events).stage? index) attempt

namespace Undisturbed

variable {events : List Event} {log : List Attempt} {accepted : Bytes} {writer : SessionId}

theorem sentOnce (hRun : Undisturbed index start events log accepted)
    (hStage : (start.run events).stage? index writer = some (.finished (.ok ()))) :
    SentOnce log writer (start.contents index events writer) := by
  obtain ⟨⟨found, payload, sent⟩, hMem, rfl, hWhole⟩ := hRun.ledger.succeeded writer hStage
  have hPayload : payload = start.contents index events found := hRun.filled.logged _ hMem
  have hSent : sent = (frame payload).length := hWhole
  rw [SentOnce, hRun.ledger.filter_writer hMem, hSent, hPayload]

theorem not_logged (hRun : Undisturbed index start events log accepted) {error : ConnectionError}
    (hStage : (start.run events).stage? index writer = some (.finished (.error error))) :
    ∀ attempt ∈ log, attempt.writer ≠ writer := by
  rintro attempt hMem rfl
  rcases hRun.settled attempt hMem with ⟨buffer, rest, hSending⟩ | ⟨-, hOk | hDropped⟩
  · cases hStage.symm.trans hSending
  · cases hStage.symm.trans hOk
  · cases hStage.symm.trans hDropped

/-- The stream is made of the whole frames and of what was taken of the last one. -/
theorem accepted_eq (hRun : Undisturbed index start events log accepted)
    {whole current : List Attempt} (hLog : log = whole ++ current)
    (hWhole : ∀ attempt ∈ whole, attempt.Whole) :
    accepted =
      (whole.flatMap fun attempt => frame attempt.payload) ++ current.flatMap Attempt.bytes := by
  have hFrames : whole.flatMap Attempt.bytes = whole.flatMap fun attempt => frame attempt.payload :=
    List.flatMap_congr fun attempt hAttempt => by
      rw [Attempt.bytes, show attempt.sent = _ from hWhole attempt hAttempt]
      exact List.take_length
  rw [hRun.ledger.accepted, hLog, List.flatMap_append, hFrames]

/-- What a send that is over says of its frame. -/
theorem answer (hRun : Undisturbed index start events log accepted)
    (hLogged : start.logged index events = log.map (·.writer)) {send : Send}
    (hCourse : Send.Course index start version events send) {sender : Sender}
    {answer : Except ReplyError (List Member)} (hAnswer : send.delivery = .finished sender answer) :
    (answer = .ok [] ∧ ∃ writer payload, send.writer = some writer ∧
      (send.message version).result = .ok payload ∧ SentOnce log writer payload) ∨
    answer ≠ .ok [] ∧ ∀ writer, send.writer = some writer →
      ∀ attempt ∈ log, attempt.writer ≠ writer := by
  cases hCourse with
  | starting | opening | acquiring | flushing => cases hAnswer
  | @concluded message delivery writer success hOutcome hEnds =>
      cases hAnswer
      cases hEnds with
      | sent writer hStage hContents =>
          exact .inl ⟨Delivery.answer_of_outcome hOutcome, writer, _, rfl, hContents,
            hRun.sentOnce hStage⟩
      | refused writer error hStage =>
          refine .inr ⟨?_, fun other hOther => ?_⟩
          · rintro rfl
            cases hOutcome
          · cases hOther
            exact hRun.not_logged hStage
      | dropped writer hStage hUnlogged =>
          refine .inr ⟨?_, fun other hOther attempt hMem hEq => ?_⟩
          · rintro rfl
            cases hOutcome
          · cases hOther
            exact hUnlogged (hLogged ▸ hEq ▸ List.mem_map_of_mem hMem)
      | unopened =>
          refine .inr ⟨?_, nofun⟩
          rintro rfl
          cases hOutcome

end Undisturbed

/-- Any number of writers and of sends share a connection, their steps come in any order, and the
socket takes its time and takes as little at a time as it likes. As long as no call fails and no
write is given up, it has accepted whole frames, and then some bytes from the front of the frame
that the holder of the lock is sending. The frames are those of the buffers as they were filled, in
the order in which their writers were given the lock. A writer that succeeded has sent its buffer as
one frame, a writer that failed has sent nothing; and a send has sent its message, encoded for the
connection, as one frame if it says so, and nothing otherwise. -/
theorem accepted_serially (hPristine : Pristine index start) (moves : List Move) :
    let traffic := Traffic.run index start {} moves
    let events := traffic.history
    let cluster := start.run events
    let log := (Watch.run index ⟨start, []⟩ events).log
    (∀ call ∈ start.streamCalls index events, call.failed = false) →
    start.abandons index events = [] →
    (∃ whole current, log = whole ++ current ∧ (∀ attempt ∈ whole, attempt.Whole) ∧
      cluster.accepted index =
        (whole.flatMap fun attempt => frame attempt.payload) ++ current.flatMap Attempt.bytes ∧
      (current = [] ∨ ∃ attempt buffer rest connection, current = [attempt] ∧
        cluster.stage? index attempt.writer = some (.sending buffer rest) ∧
        cluster.connections[index]? = some connection ∧
        connection.lock.holder = some attempt.writer)) ∧
    (∀ attempt ∈ log, attempt.payload = start.contents index events attempt.writer) ∧
    ((log.map (·.writer)).Sublist (start.grants index events) ∧
      (start.grants index events).Nodup) ∧
    (∀ writer, cluster.stage? index writer = some (.finished (.ok ())) →
      SentOnce log writer (start.contents index events writer)) ∧
    (∀ writer error, cluster.stage? index writer = some (.finished (.error error)) →
      ∀ attempt ∈ log, attempt.writer ≠ writer) ∧
    (traffic.parties.filterMap (·.writer)).Nodup ∧
    ∃ connection, start.connections[index]? = some connection ∧
      ∀ send ∈ traffic.parties, ∀ sender answer, send.delivery = .finished sender answer →
        (answer = .ok [] ∧ ∃ writer payload, send.writer = some writer ∧
          (send.message connection.version).result = .ok payload ∧ SentOnce log writer payload) ∨
        answer ≠ .ok [] ∧ ∀ writer, send.writer = some writer →
          ∀ attempt ∈ log, attempt.writer ≠ writer := by
  intro traffic events cluster log hCalls hAbandons
  obtain ⟨connection, socket, hSound⟩ := hPristine.sound_run events
  have hCluster : (Watch.run index ⟨start, []⟩ events).cluster = cluster := Watch.cluster_run ..
  have hPresent := hCluster ▸ hSound.present
  have hLedger := hSound.ledger
  rw [hCluster] at hLedger
  have hRun : Undisturbed index start events log socket.accepted :=
    ⟨hLedger, hPristine.filled_run events,
      hPristine.settled_run events hCalls hAbandons⟩
  obtain ⟨found, hFound, hLine⟩ := Watch.inLine_run hPristine events
  obtain ⟨whole, current, hLog, hWhole, hCurrent⟩ := hRun.ledger.split_settled hRun.settled
  obtain ⟨first, script, hFirst, -⟩ := hPristine.connection
  have hSends : (conduct index).Sound (Send.Course index start first.version) traffic :=
    (keeps_course hPristine hFirst).run (Conduct.Sound.idle ..) moves
  have hDistinct : (traffic.parties.filterMap (·.writer)).Nodup := by
    rw [List.filterMap_eq_flatMap_toList]
    exact hSends.distinct
  refine ⟨⟨whole, current, hLog, hWhole, ?_, ?_⟩, hRun.filled.logged,
    ⟨hLine.ordered, (List.nodup_append.1 hLine.nodup).1⟩, fun writer hStage => hRun.sentOnce hStage,
    fun writer error hStage => hRun.not_logged hStage, hDistinct, first, hFirst,
    fun send hSend sender answer hAnswer => hRun.answer rfl (hSends.each send hSend) hAnswer⟩
  · rw [Cluster.accepted_eq hPresent hSound.outlet]
    exact hRun.accepted_eq hLog hWhole
  · refine hCurrent.imp_right ?_
    rintro ⟨attempt, buffer, rest, hOnly, hStage⟩
    have hHeld := hCluster ▸ hSound.held
    exact ⟨attempt, buffer, rest, connection, hOnly, hStage, hPresent, hHeld _ _ hStage rfl⟩

/-- A writer that is used by hand has the lock when a reply is sent. Its frame is taken in small
pieces, with a stall between two of them, and the reply follows. -/
theorem accepted_reply_after_stall :
    let start := Watch.lone { writes := [.accept 2, .stall, .accept 1] }
    let byHand : List Event := [.openWriter 0, .step 0, .step 0, .step 0, .append 0 [[7]], .flush 0]
    let reply := (Message.reply 7 none).encoding
    let moves : List Move := byHand.map .other ++
      [.begin (⟨0, Replying.peer, false, false⟩, reply), .go 0, .other (.step 0), .go 0, .go 0,
        .other (.step 0), .other (.unstall 0)] ++
      List.replicate 4 (.other (.step 0)) ++ List.replicate 10 (.go 0)
    let traffic := Traffic.run 0 start {} moves
    let log := (Watch.run 0 ⟨start, []⟩ traffic.history).log
    Pristine 0 start ∧ (∀ call ∈ start.streamCalls 0 traffic.history, call.failed = false) ∧
      start.abandons 0 traffic.history = [] ∧
      log = [⟨0, [7], 5⟩, ⟨1, [0, 2, 4, 0, 0, 0, 7, 0], 12⟩] ∧
      traffic.parties.map (fun send => (send.writer, send.delivery.outcome?)) =
        [(some 1, some true)] ∧
      (∀ attempt ∈ log, attempt.payload = start.contents 0 traffic.history attempt.writer) ∧
      (log.map (·.writer)).Sublist (start.grants 0 traffic.history) := by
  intro start byHand reply moves traffic log
  have hCalls : ∀ call ∈ start.streamCalls 0 traffic.history, call.failed = false := by
    decide +kernel
  have hAbandons : start.abandons 0 traffic.history = [] := by decide +kernel
  obtain ⟨-, hContents, ⟨hOrder, -⟩, -⟩ :=
    accepted_serially (pristine_lone _) moves hCalls hAbandons
  exact ⟨pristine_lone _, hCalls, hAbandons, by decide +kernel, by decide +kernel, hContents,
    hOrder⟩

end Traffic

end ConfigExchange
