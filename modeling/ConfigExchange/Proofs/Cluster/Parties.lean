import ConfigExchange.Cluster
import Mathlib.Data.List.Induction
import Mathlib.Data.List.Nodup

/-! Parties that take turns in a cluster, whatever it is that they do. A party acts through writers
that it has opened, and nobody else acts through them. So what is known of a party does not depend
on what the others do, and it is enough to look at one party at a time: at what it does in one step,
and at what is done without it. -/
namespace ConfigExchange

/-- The place of an entry splits a list. -/
theorem exists_split {α : Type} {list : List α} {place : Nat} {entry : α}
    (hEntry : list[place]? = some entry) :
    ∃ earlier later, list = earlier ++ entry :: later ∧
      list.eraseIdx place = earlier ++ later ∧
      ∀ other, list.set place other = earlier ++ other :: later := by
  obtain ⟨hPlace, rfl⟩ := List.getElem?_eq_some_iff.1 hEntry
  refine ⟨list.take place, list.drop (place + 1), ?_, List.eraseIdx_eq_take_drop_succ ..,
    fun other => ?_⟩
  · rw [List.getElem_cons_drop, List.take_append_drop]
  · rw [List.set_eq_take_append_cons_drop, if_pos hPlace]

/-- What parties of one kind do. It is told twice: as the program does it, and as the acts of which
a history is made. -/
structure Conduct (Act Task Party : Type) where
  /-- The cluster after an act. -/
  perform : Cluster → Act → Cluster
  /-- The session that goes on in an act. -/
  subject? : Act → Option SessionId
  /-- The party that takes up a task, if it can be taken up. -/
  enter? : Cluster → Task → Option Party
  /-- One step of a party. There is none if it waits, or is done. -/
  step : Cluster → Party → Option (Party × Cluster)
  /-- What it does in that step. -/
  acts : Cluster → Party → List Act
  /-- Ends a party where it is. -/
  drop : Cluster → Party → Cluster
  /-- What is done then. -/
  dropActs : Party → List Act
  /-- The writers that a party has opened. -/
  writers : Party → List SessionId

/-- All that was done in a cluster, and the parties that are at work or are done. -/
structure Parties (Act Party : Type) where
  history : List Act := []
  parties : List Party := []

/-- What may come next: a task is taken up, a party goes on or is given up, or something else is
done. -/
inductive Parties.Move (Act Task : Type) where
  | begin (task : Task)
  | go (place : Nat)
  | abandon (place : Nat)
  | other (act : Act)

namespace Conduct

variable {Act Task Party : Type} (conduct : Conduct Act Task Party)

/-- The cluster after all that was done. -/
def after (start : Cluster) (history : List Act) : Cluster := history.foldl conduct.perform start

/-- Nobody but a party has its writers. -/
def owns (state : Parties Act Party) (act : Act) : Bool :=
  state.parties.any fun party =>
    (conduct.writers party).any fun writer => conduct.subject? act = some writer

def move (start : Cluster) (state : Parties Act Party) : Parties.Move Act Task → Parties Act Party
  | .begin task =>
    match conduct.enter? (conduct.after start state.history) task with
    | none => state
    | some party => { state with parties := state.parties ++ [party] }
  | .go place =>
    match state.parties[place]? with
    | none => state
    | some party =>
      let cluster := conduct.after start state.history
      match conduct.step cluster party with
      | none => state
      | some (next, _) =>
        { history := state.history ++ conduct.acts cluster party
          parties := state.parties.set place next }
  | .abandon place =>
    match state.parties[place]? with
    | none => state
    | some party =>
      { history := state.history ++ conduct.dropActs party
        parties := state.parties.eraseIdx place }
  | .other act =>
    if conduct.owns state act then state else { state with history := state.history ++ [act] }

def run (start : Cluster) (state : Parties Act Party) (moves : List (Parties.Move Act Task)) :
    Parties Act Party :=
  moves.foldl (conduct.move start) state

theorem after_append (start : Cluster) (first second : List Act) :
    conduct.after start (first ++ second) = conduct.after (conduct.after start first) second :=
  List.foldl_append

theorem run_concat (start : Cluster) (state : Parties Act Party)
    (moves : List (Parties.Move Act Task)) (move : Parties.Move Act Task) :
    conduct.run start state (moves ++ [move]) =
      conduct.move start (conduct.run start state moves) move :=
  List.foldl_concat ..

theorem run_append (start : Cluster) (state : Parties Act Party)
    (first second : List (Parties.Move Act Task)) :
    conduct.run start state (first ++ second) =
      conduct.run start (conduct.run start state first) second :=
  List.foldl_append

/-- What a move can come to. -/
inductive Turn (start : Cluster) (state : Parties Act Party) : Parties Act Party → Prop where
  /-- Nothing is done. -/
  | still : Turn start state state
  | enters {task : Task} {party : Party}
      (hEnter : conduct.enter? (conduct.after start state.history) task = some party) :
      Turn start state { state with parties := state.parties ++ [party] }
  | goes {place : Nat} {party next : Party} {later : Cluster}
      (hParty : state.parties[place]? = some party)
      (hStep : conduct.step (conduct.after start state.history) party = some (next, later)) :
      Turn start state
        { history := state.history ++ conduct.acts (conduct.after start state.history) party
          parties := state.parties.set place next }
  | leaves {place : Nat} {party : Party} (hParty : state.parties[place]? = some party) :
      Turn start state
        { history := state.history ++ conduct.dropActs party
          parties := state.parties.eraseIdx place }
  | others {act : Act} (hOwns : conduct.owns state act = false) :
      Turn start state { state with history := state.history ++ [act] }

theorem turn_move (start : Cluster) (state : Parties Act Party) (move : Parties.Move Act Task) :
    conduct.Turn start state (conduct.move start state move) := by
  cases move with
  | begin task =>
      unfold Conduct.move
      simp only
      split
      · exact .still
      · next hEnter => exact .enters hEnter
  | go place =>
      unfold Conduct.move
      simp only
      split
      · exact .still
      · next hParty =>
        split
        · exact .still
        · next hStep => exact .goes hParty hStep
  | abandon place =>
      unfold Conduct.move
      simp only
      split
      · exact .still
      · next hParty => exact .leaves hParty
  | other act =>
      unfold Conduct.move
      simp only
      split
      · exact .still
      · next hOwns => exact .others (Bool.eq_false_iff.2 hOwns)

/-- What was done stays done. -/
theorem history_move (start : Cluster) (state : Parties Act Party)
    (move : Parties.Move Act Task) :
    ∃ acts, (conduct.move start state move).history = state.history ++ acts := by
  have hTurn := conduct.turn_move start state move
  generalize conduct.move start state move = next at hTurn ⊢
  cases hTurn with
  | still | enters => exact ⟨[], (List.append_nil _).symm⟩
  | goes | leaves | others => exact ⟨_, rfl⟩

theorem history_run (start : Cluster) (state : Parties Act Party)
    (moves : List (Parties.Move Act Task)) :
    ∃ acts, (conduct.run start state moves).history = state.history ++ acts := by
  induction moves using List.reverseRecOn with
  | nil => exact ⟨[], (List.append_nil _).symm⟩
  | append_singleton moves move ih =>
      obtain ⟨earlier, hEarlier⟩ := ih
      obtain ⟨acts, hActs⟩ := conduct.history_move start (conduct.run start state moves) move
      exact ⟨earlier ++ acts, by rw [run_concat, hActs, hEarlier, List.append_assoc]⟩

/-! ### What is known of each party -/

/-- Something that is known of a party all the time, whatever the others do. -/
structure Keeps (start : Cluster) (Known : List Act → Party → Prop) : Prop where
  /-- It is known of a party that comes in, which has no writer yet. -/
  enters : ∀ {history : List Act} {task : Task} {party : Party},
    conduct.enter? (conduct.after start history) task = some party →
      Known history party ∧ conduct.writers party = []
  /-- It is still known of a party that goes on. -/
  goes : ∀ {history : List Act} {party next : Party} {later : Cluster}, Known history party →
    conduct.step (conduct.after start history) party = some (next, later) →
      Known (history ++ conduct.acts (conduct.after start history) party) next
  /-- What is done without the writers of a party does not matter to it. -/
  others : ∀ {history : List Act} {party : Party} {act : Act}, Known history party →
    (∀ id ∈ conduct.writers party, conduct.subject? act ≠ some id) → Known (history ++ [act]) party
  /-- A party acts through its own writers only. -/
  owner : ∀ {history : List Act} {party : Party} {act : Act} {id : SessionId}, Known history party →
    act ∈ conduct.acts (conduct.after start history) party ∨ act ∈ conduct.dropActs party →
      conduct.subject? act = some id → id ∈ conduct.writers party
  /-- It opens them one at a time. -/
  opens : ∀ {history : List Act} {party next : Party} {later : Cluster}, Known history party →
    conduct.step (conduct.after start history) party = some (next, later) →
      conduct.writers next = conduct.writers party ∨ conduct.writers next =
        (conduct.after start history).sessions.length :: conduct.writers party
  /-- Its writers are there. -/
  present : ∀ {history : List Act} {party : Party} {id : SessionId}, Known history party →
    id ∈ conduct.writers party → id < (conduct.after start history).sessions.length
  /-- Its acts do to the cluster what the program does in a step. -/
  enacts : ∀ {history : List Act} {party next : Party} {later : Cluster}, Known history party →
    conduct.step (conduct.after start history) party = some (next, later) →
      conduct.after (conduct.after start history)
        (conduct.acts (conduct.after start history) party) = later
  /-- So do those with which it is given up. -/
  ends : ∀ (cluster : Cluster) (party : Party),
    conduct.after cluster (conduct.dropActs party) = conduct.drop cluster party

/-- What is known of each party holds, and no writer belongs to two. -/
structure Sound (Known : List Act → Party → Prop) (state : Parties Act Party) : Prop where
  each : ∀ party ∈ state.parties, Known state.history party
  distinct : (state.parties.flatMap conduct.writers).Nodup

theorem Sound.idle (Known : List Act → Party → Prop) : conduct.Sound Known {} where
  each := fun _ hParty => absurd hParty List.not_mem_nil
  distinct := List.nodup_nil

/-- Writers are distinct if those of all parties but one are, and it has others than they. -/
theorem nodup_writers_iff (earlier later : List Party) (party : Party) :
    ((earlier ++ party :: later).flatMap conduct.writers).Nodup ↔
      ((earlier ++ later).flatMap conduct.writers).Nodup ∧ (conduct.writers party).Nodup ∧
        ∀ id ∈ conduct.writers party, ∀ other ∈ earlier ++ later, id ∉ conduct.writers other := by
  have hPerm : ((earlier ++ party :: later).flatMap conduct.writers).Perm
      (conduct.writers party ++ (earlier ++ later).flatMap conduct.writers) := by
    rw [List.flatMap_append, List.flatMap_cons, List.flatMap_append]
    exact List.perm_append_comm_assoc ..
  rw [hPerm.nodup_iff, List.nodup_append', List.disjoint_left]
  simp only [List.mem_flatMap, not_exists, not_and]
  exact ⟨fun ⟨hOwn, hRest, hApart⟩ =>
      ⟨hRest, hOwn, fun id hId other hOther => hApart hId other hOther⟩,
    fun ⟨hRest, hOwn, hApart⟩ => ⟨hOwn, hRest, fun _ hId other hOther => hApart hId other hOther⟩⟩

namespace Keeps

variable {conduct} {start : Cluster} {Known : List Act → Party → Prop} {state : Parties Act Party}
  {history acts : List Act} {earlier rest : List Party} {party : Party}

theorem append (hKeeps : conduct.Keeps start Known) (hKnown : Known history party)
    (hActs : ∀ act ∈ acts, ∀ id ∈ conduct.writers party, conduct.subject? act ≠ some id) :
    Known (history ++ acts) party := by
  induction acts using List.reverseRecOn with
  | nil => rwa [List.append_nil]
  | append_singleton acts act ih =>
      rw [← List.append_assoc]
      refine hKeeps.others (ih fun other hOther => hActs other (List.mem_append_left _ hOther)) ?_
      exact hActs act (by simp)

/-- What one party does leaves the others as they are. -/
theorem apart (hKeeps : conduct.Keeps start Known)
    (hSound : conduct.Sound Known ⟨history, earlier ++ party :: rest⟩)
    (hOwner : ∀ act ∈ acts, ∀ id, conduct.subject? act = some id → id ∈ conduct.writers party) :
    ∀ other ∈ earlier ++ rest, Known (history ++ acts) other := by
  intro other hOther
  have hMem := ((List.sublist_cons_self party rest).append_left earlier).subset hOther
  refine hKeeps.append (hSound.each other hMem) fun act hAct id hId hSubject => ?_
  obtain ⟨-, -, hApart⟩ := (conduct.nodup_writers_iff ..).1 hSound.distinct
  exact hApart id (hOwner act hAct id hSubject) other hOther hId

/-- A party that goes on leaves all others where they are, and takes no writer from them. -/
theorem go (hKeeps : conduct.Keeps start Known) (hSound : conduct.Sound Known state) {place : Nat}
    {next : Party} {later : Cluster} (hParty : state.parties[place]? = some party)
    (hStep : conduct.step (conduct.after start state.history) party = some (next, later)) :
    conduct.Sound Known
      { history := state.history ++ conduct.acts (conduct.after start state.history) party
        parties := state.parties.set place next } := by
  obtain ⟨history, parties⟩ := state
  obtain ⟨before, behind, rfl, -, hSet⟩ := exists_split hParty
  have hOwn := hSound.each party (by simp)
  have hOthers := hKeeps.apart hSound fun act hAct id => hKeeps.owner hOwn (.inl hAct)
  obtain ⟨hDistinct, hNodup, hApart⟩ := (conduct.nodup_writers_iff ..).1 hSound.distinct
  simp only [hSet]
  refine ⟨fun other hOther => ?_, (conduct.nodup_writers_iff ..).2 ⟨hDistinct, ?_⟩⟩
  · rcases List.mem_append.1 hOther with hLeft | hRight
    · exact hOthers other (List.mem_append_left _ hLeft)
    · rcases List.mem_cons.1 hRight with rfl | hRest
      · exact hKeeps.goes hOwn hStep
      · exact hOthers other (List.mem_append_right _ hRest)
  · -- A writer that is opened now is none that anybody has.
    have hNew {other : Party} (hOther : Known history other) :
        (conduct.after start history).sessions.length ∉ conduct.writers other := by
      intro hMem
      exact absurd (hKeeps.present hOther hMem) (Nat.lt_irrefl _)
    rcases hKeeps.opens hOwn hStep with hSame | hOpens
    · rw [hSame]
      exact ⟨hNodup, hApart⟩
    · rw [hOpens]
      refine ⟨List.nodup_cons.2 ⟨hNew hOwn, hNodup⟩, fun id hId other hOther => ?_⟩
      rcases List.mem_cons.1 hId with rfl | hOld
      · exact hNew (hSound.each other
          (((List.sublist_cons_self party behind).append_left before).subset hOther))
      · exact hApart id hOld other hOther

/-- A party that is given up is no more. -/
theorem abandon (hKeeps : conduct.Keeps start Known) (hSound : conduct.Sound Known state)
    {place : Nat} (hParty : state.parties[place]? = some party) :
    conduct.Sound Known
      { history := state.history ++ conduct.dropActs party
        parties := state.parties.eraseIdx place } := by
  obtain ⟨history, parties⟩ := state
  obtain ⟨before, behind, rfl, hErase, -⟩ := exists_split hParty
  have hOwn := hSound.each party (by simp)
  simp only [hErase]
  exact ⟨hKeeps.apart hSound fun act hAct id => hKeeps.owner hOwn (.inr hAct),
    ((conduct.nodup_writers_iff ..).1 hSound.distinct).1⟩

theorem move (hKeeps : conduct.Keeps start Known) (hSound : conduct.Sound Known state)
    (move : Parties.Move Act Task) : conduct.Sound Known (conduct.move start state move) := by
  have hTurn := conduct.turn_move start state move
  generalize conduct.move start state move = next at hTurn ⊢
  cases hTurn with
  | still => exact hSound
  | enters hEnter =>
      obtain ⟨hKnown, hNone⟩ := hKeeps.enters hEnter
      refine ⟨fun party hParty => ?_, ?_⟩
      · rcases List.mem_append.1 hParty with hOld | hNew
        · exact hSound.each party hOld
        · cases List.mem_singleton.1 hNew
          exact hKnown
      · rw [List.flatMap_append, List.flatMap_singleton, hNone, List.append_nil]
        exact hSound.distinct
  | goes hParty hStep => exact hKeeps.go hSound hParty hStep
  | leaves hParty => exact hKeeps.abandon hSound hParty
  | others hOwns =>
      refine ⟨fun party hParty => ?_, hSound.distinct⟩
      refine hKeeps.others (hSound.each party hParty) fun id hId hSubject => ?_
      rw [owns, List.any_eq_false] at hOwns
      exact hOwns party hParty (List.any_eq_true.2 ⟨id, hId, by simp [hSubject]⟩)

theorem run (hKeeps : conduct.Keeps start Known) (hSound : conduct.Sound Known state)
    (moves : List (Parties.Move Act Task)) :
    conduct.Sound Known (conduct.run start state moves) := by
  induction moves generalizing state with
  | nil => exact hSound
  | cons first rest ih => exact ih (hKeeps.move hSound first)

/-- A party does to the cluster what it does when nobody keeps the history. -/
theorem cluster_go (hKeeps : conduct.Keeps start Known) (hSound : conduct.Sound Known state)
    {place : Nat} {next : Party} {later : Cluster} (hParty : state.parties[place]? = some party)
    (hStep : conduct.step (conduct.after start state.history) party = some (next, later)) :
    conduct.after start (conduct.move start state (.go place)).history = later := by
  simp only [Conduct.move, hParty, hStep]
  rw [after_append, hKeeps.enacts (hSound.each party (List.mem_of_getElem? hParty)) hStep]

theorem cluster_abandon (hKeeps : conduct.Keeps start Known) {place : Nat}
    (hParty : state.parties[place]? = some party) :
    conduct.after start (conduct.move start state (.abandon place)).history =
      conduct.drop (conduct.after start state.history) party := by
  simp only [Conduct.move, hParty]
  rw [after_append, hKeeps.ends]

end Keeps

end Conduct

end ConfigExchange
