import ConfigExchange.Proofs.Cluster.Release

/-! One exchange among whatever else is done on its connection and around it. Of each step that it
makes the cluster before and after is kept, so that what the exchange comes to can be told from what
it found at its own steps, and from nothing else. -/
namespace ConfigExchange

open Cluster

/-- One exchange, and the steps that it has made: the cluster before each of them and after. -/
structure Passage where
  cluster : Cluster
  affair : Affair
  steps : List (Cluster × Cluster) := []

namespace Passage

/-- What may come next: the exchange goes on, or something else is done. -/
inductive Move where
  | go
  | other (deed : Deed)

/-- Whether a deed is done to a writer of the exchange. -/
def owns (passage : Passage) (deed : Deed) : Bool :=
  passage.affair.writers.any fun writer => deed.subject? = some writer

def move (passage : Passage) : Move → Passage
  | .go =>
    match passage.affair.exchange.step passage.cluster with
    | none => passage
    | some (next, later) =>
      let writers := passage.affair.exchange.opens passage.cluster ++ passage.affair.writers
      { cluster := later
        affair := { passage.affair with exchange := next, writers }
        steps := passage.steps ++ [(passage.cluster, later)] }
  | .other deed =>
    if passage.owns deed then passage else { passage with cluster := passage.cluster.enact deed }

def run (passage : Passage) (moves : List Move) : Passage := moves.foldl move passage

/-- A task on a connection of which nothing was done yet. -/
def start (cluster : Cluster) (index : Nat) (task : Task) : Passage where
  cluster
  affair := { connection := index, exchange := task.exchange index }

/-- The cluster in which a step was made, if it was made. -/
def moment (steps : List (Cluster × Cluster)) (count : Nat) : Cluster :=
  (steps[count]?.map (·.1)).getD {}

end Passage

/-! ### What is found at a step -/

namespace Cluster

/-- Whether a connection is closed. -/
def isClosed (cluster : Cluster) (index : Nat) : Bool :=
  cluster.connections[index]?.any (·.closed)

/-- Who has the lock of a connection. -/
def holder? (cluster : Cluster) (index : Nat) : Option SessionId :=
  cluster.connections[index]?.bind (·.lock.holder)

/-- What a connection writes to. -/
def outlet? (cluster : Cluster) (index : Nat) : Option Outlet :=
  cluster.connections[index]?.map (·.outlet)

/-- What the socket of a connection will do. -/
def script (cluster : Cluster) (index : Nat) : SocketScript :=
  match cluster.outlet? index with
  | some (.socket socket) => socket.script
  | _ => {}

/-- What the socket of a connection accepted in some steps. -/
def gains (index : Nat) (steps : List (Cluster × Cluster)) : Bytes :=
  steps.flatMap fun step => (step.2.accepted index).drop (step.1.accepted index).length

/-- Whether some steps left what a connection writes to as it was. -/
def Untouched (index : Nat) (steps : List (Cluster × Cluster)) : Prop :=
  ∀ step ∈ steps, step.2.outlet? index = step.1.outlet? index

end Cluster

/-- What came of a call on a socket. -/
theorem CallTurn.socket {channels : Channels} {socket : Socket} {calls : List Call} {next : Outlet}
    (hTurn : CallTurn channels (.socket socket) calls next) :
    ∃ later, next = .socket later ∧ socket.accepted <+: later.accepted := by
  generalize hOutlet : Outlet.socket socket = outlet at hTurn
  cases hTurn with
  | waits => exact ⟨socket, hOutlet.symm, List.prefix_rfl⟩
  | unstalls hSocket =>
      cases hOutlet.trans hSocket
      exact ⟨_, rfl, socket.accepted_unstall ▸ List.prefix_rfl⟩
  | @answers call _ _ _ hCall =>
      subst hOutlet
      refine ⟨(socket.call call.call).2, (congrArg (·.2.1) hCall).symm, ?_⟩
      cases call.call with
      | write bytes =>
          rcases socket.write_cases bytes with ⟨taken, rest, -, -, hAccepted⟩ | ⟨hAccepted, -⟩
          · exact ⟨taken, hAccepted.symm⟩
          · exact hAccepted ▸ List.prefix_rfl
      | flush => exact socket.flush_cases.1 ▸ List.prefix_rfl
      | shutdown => exact socket.accepted_shutdown ▸ List.prefix_rfl

namespace Cluster

variable {cluster later : Cluster} {index : Nat} {base connection : Connection} {socket : Socket}
  {id : SessionId} {stage : WriterStage} {deed : Deed}

/-- There is a connection with a socket, which was `base` at some time, and a pool for it; and what
holds all the time of places, locks and pools holds there. -/
structure Bears (cluster : Cluster) (index : Nat) (base : Connection) : Prop where
  placed : cluster.Placed
  orderly : cluster.Orderly
  enlisted : cluster.Enlisted
  balanced : ∃ size found, cluster.sites[base.site]? = some found ∧
    found.pool.Balanced size (cluster.claims base.site)
  present : ∃ connection socket, cluster.connections[index]? = some connection ∧
    connection.outlet = .socket socket ∧
    connection = { base with
      outlet := connection.outlet, lock := connection.lock, closed := connection.closed }

namespace Bears

/-- Whatever is done, a connection stays what it is, and its socket takes nothing back. -/
theorem enact (hBears : cluster.Bears index base) (deed : Deed) :
    (cluster.enact deed).Bears index base ∧
      cluster.accepted index <+: (cluster.enact deed).accepted index := by
  obtain ⟨connection, socket, hConnection, hOutlet, hBase⟩ := hBears.present
  obtain ⟨next, hNext, hTurn⟩ := turn_enact hConnection deed
  have hSocket : ∃ later, next.outlet = .socket later ∧ socket.accepted <+: later.accepted := by
    rcases enact_cases cluster deed with hSame | ⟨event, -, hEvent⟩
    · rw [hSame, hConnection] at hNext
      cases hNext
      exact ⟨socket, hOutlet, List.prefix_rfl⟩
    · obtain ⟨other, hOther, hCalls⟩ := calls_perform hConnection event
      rw [hEvent, hOther] at hNext
      cases hNext
      rw [hOutlet] at hCalls
      exact hCalls.socket
  obtain ⟨later, hLater, hPrefix⟩ := hSocket
  obtain ⟨size, found, hFound, hBalanced⟩ := hBears.balanced
  obtain ⟨pool, cache, hSite, hPool⟩ := poolTurn_enact hBears.placed hFound deed
  refine ⟨⟨hBears.placed.enact deed, hBears.orderly.enact hBears.placed deed,
    hBears.enlisted.enact hBears.orderly deed, ⟨size, _, hSite, hBalanced.turn hPool⟩, next, later,
    hNext, hLater, ?_⟩, ?_⟩
  · have hSame := hTurn.same
    rw [hBase] at hSame
    exact hSame
  · rw [accepted_eq hConnection hOutlet, accepted_eq hNext hLater]
    exact hPrefix

theorem enactAll (hBears : cluster.Bears index base) (deeds : List Deed) :
    (cluster.enactAll deeds).Bears index base ∧
      cluster.accepted index <+: (cluster.enactAll deeds).accepted index := by
  induction deeds generalizing cluster with
  | nil => exact ⟨hBears, List.prefix_rfl⟩
  | cons deed rest ih =>
      obtain ⟨hNext, hPrefix⟩ := hBears.enact deed
      obtain ⟨hLast, hRest⟩ := ih hNext
      exact ⟨hLast, hPrefix.trans hRest⟩

/-- A connection that is there, and the pool that its writers take their buffers from. -/
theorem pool (hBears : cluster.Bears index base) :
    ∃ connection socket pool, cluster.connections[index]? = some connection ∧
      connection.outlet = .socket socket ∧
      connection = { base with
        outlet := connection.outlet, lock := connection.lock, closed := connection.closed } ∧
      cluster.pool? base.site = some pool := by
  obtain ⟨connection, socket, hConnection, hOutlet, hBase⟩ := hBears.present
  obtain ⟨size, found, hFound, -⟩ := hBears.balanced
  refine ⟨connection, socket, found.pool, hConnection, hOutlet, hBase, ?_⟩
  rw [pool?, hFound]
  rfl

/-- A writer that is over has given everything back. -/
theorem released (hBears : cluster.Bears index base)
    (hStage : cluster.stage? index id = some stage) (hOver : stage.isOver = true) :
    cluster.Released index id := by
  refine released_of_isOver hBears.enlisted hStage hOver fun found site hFound hSite => ?_
  obtain ⟨connection, socket, hConnection, -, hBase⟩ := hBears.present
  have hPlace : found.site = base.site := by
    rw [Option.some_inj.1 (hFound.symm.trans hConnection), hBase]
  obtain ⟨size, other, hOther, hBalanced⟩ := hBears.balanced
  rw [hPlace] at hSite ⊢
  cases hSite.symm.trans hOther
  exact ⟨size, hBalanced⟩

end Bears

/-- While a writer has the connection to itself nobody else changes what its socket does, but to let
a stalled call go on. -/
theorem socket_enact_of_holds (hBears : cluster.Bears index base)
    (hStage : cluster.stage? index id = some stage) (hHolds : stage.holds = true)
    (hOther : deed.subject? ≠ some id) (hOutlet : cluster.outlet? index = some (.socket socket)) :
    (cluster.enact deed).outlet? index = some (.socket socket) ∨
      (cluster.enact deed).outlet? index = some (.socket socket.unstall) := by
  obtain ⟨connection, hConnection, hSocket⟩ := Option.map_eq_some_iff.1 hOutlet
  obtain ⟨hHeld, -⟩ := hBears.orderly index connection hConnection
  have hHolder := hHeld id stage hStage hHolds
  rcases enact_cases cluster deed with hSame | ⟨event, hSubject, hEvent⟩
  · rw [hSame]
    exact .inl hOutlet
  · obtain ⟨next, hNext, hCalls⟩ := calls_perform hConnection event
    rw [hEvent, outlet?, hNext, Option.map_some, Option.some_inj, Option.some_inj]
    rw [hSocket] at hCalls
    generalize hMade : callsIn index cluster event = calls at hCalls
    generalize next.outlet = outlet at hCalls
    generalize hWas : Outlet.socket socket = was at hCalls
    cases hCalls with
    | waits => exact .inl rfl
    | unstalls hUnstalled =>
        cases hWas.trans hUnstalled
        exact .inr rfl
    | @answers call _ _ _ _ =>
        -- Only who has the lock makes a call, and that is the writer.
        have hMem : call ∈ callsIn index cluster event := by
          rw [hMade]
          exact List.mem_singleton_self call
        obtain ⟨found, hFound, rfl, -, -, hCaller⟩ := callsIn_cases hMem
        cases hConnection.symm.trans hFound
        refine absurd (hSubject.symm.trans (congrArg some ?_)) hOther
        rcases hCaller with ⟨buffer, rest, pool, hSends, -⟩ | ⟨-, -, hLock⟩
        · exact Option.some_inj.1 ((hHeld _ _ hSends rfl).symm.trans hHolder)
        · exact Option.some_inj.1 (hLock.symm.trans hHolder)

/-- A turn of a writer that sends nothing leaves the stream alone. -/
theorem Turn.outlet_of_idle {next : Connection}
    (hTurn : Turn index cluster later connection (some id) next)
    (hStage : cluster.stage? index id = some stage)
    (hIdle : ∀ buffer rest, stage ≠ .sending buffer rest) : next.outlet = connection.outlet := by
  cases hTurn with
  | still => rfl
  | closes id hCloser => cases hCloser.symm.trans hStage
  | writes id hFound hStages hWriter =>
      cases hFound.symm.trans hStage
      cases hWriter with
      | sends | completes | breaks => exact absurd rfl (hIdle _ _)
      | queues | asks | gets | fills | flushes | leaves | quits => rfl

end Cluster

namespace Passage

variable {index : Nat} {base : Connection} {passage : Passage}

/-- What holds of an exchange and its connection all the time. -/
structure Sound (index : Nat) (base : Connection) (passage : Passage) : Prop where
  bears : passage.cluster.Bears index base
  affair : passage.affair.Sound passage.cluster
  connection : passage.affair.connection = index

theorem Sound.move (hSound : Sound index base passage) (move : Move) :
    Sound index base (passage.move move) := by
  cases move with
  | go =>
      simp only [Passage.move]
      split
      · exact hSound
      · next next later hStep =>
        have hLater := hSound.affair.enactAll_deeds hStep
        have hBears := hSound.bears.enactAll (passage.affair.exchange.deeds passage.cluster)
        rw [hLater] at hBears
        exact ⟨hBears.1, hSound.affair.go hSound.bears.placed hStep, hSound.connection⟩
  | other deed =>
      simp only [Passage.move]
      split
      · exact hSound
      · next hOwns =>
        refine ⟨(hSound.bears.enact deed).1, ?_, hSound.connection⟩
        show Affair.Sound (passage.cluster.enactAll [deed]) passage.affair
        refine hSound.affair.others hSound.bears.placed fun last hLast id hId => ?_
        cases List.mem_singleton.1 hLast
        intro hSubject
        exact hOwns (List.any_eq_true.2 ⟨id, hId, by simp [hSubject]⟩)

theorem Sound.run (hSound : Sound index base passage) (moves : List Move) :
    Sound index base (passage.run moves) := by
  induction moves generalizing passage with
  | nil => exact hSound
  | cons first rest ih => exact ih (hSound.move first)

/-- Nobody else has the writer of the message that is being sent. -/
theorem Sound.subject_ne (hSound : Sound index base passage) {deed : Deed}
    (hOwns : passage.owns deed = false) {writer : SessionId}
    (hWriter : passage.affair.exchange.writer? = some writer) : deed.subject? ≠ some writer := by
  intro hSubject
  rw [owns, List.any_eq_false] at hOwns
  exact hOwns writer (hSound.affair.mem_writers hWriter) (by simp [hSubject])

/-- When no message is being sent the writers that the exchange had have given everything back. -/
theorem Sound.released (hSound : Sound index base passage)
    (hNone : passage.affair.exchange.writer? = none) {writer : SessionId}
    (hWriter : writer ∈ passage.affair.writers) : passage.cluster.Released index writer := by
  obtain ⟨stage, hStage, hOver⟩ := hSound.affair.writers writer hWriter
  rw [hSound.connection] at hStage
  exact hSound.bears.released hStage (hOver.resolve_right (by simp [hNone]))

/-- What holds of an exchange after its steps, if it is so at the beginning, each step keeps it, and
whatever others do keeps it. -/
theorem Sound.run_induction {P : List (Cluster × Cluster) → Cluster → Exchange → Prop}
    (hSound : Sound index base passage)
    (hStep : ∀ steps cluster exchange next later, cluster.Bears index base →
      P steps cluster exchange → exchange.step cluster = some (next, later) →
        P (steps ++ [(cluster, later)]) later next)
    (hOther : ∀ steps cluster exchange deed, cluster.Bears index base →
      P steps cluster exchange →
      (∀ writer, exchange.writer? = some writer → deed.subject? ≠ some writer) →
        P steps (cluster.enact deed) exchange)
    (hHolds : P passage.steps passage.cluster passage.affair.exchange) (moves : List Move) :
    P (passage.run moves).steps (passage.run moves).cluster
      (passage.run moves).affair.exchange := by
  induction moves generalizing passage with
  | nil => exact hHolds
  | cons first rest ih =>
      refine ih (hSound.move first) ?_
      cases first with
      | go =>
          simp only [Passage.move]
          split
          · exact hHolds
          · next hNext => exact hStep _ _ _ _ _ hSound.bears hHolds hNext
      | other deed =>
          simp only [Passage.move]
          split
          · exact hHolds
          · next hOwns =>
            exact hOther _ _ _ _ hSound.bears hHolds fun writer hWriter =>
              hSound.subject_ne (Bool.eq_false_iff.2 hOwns) hWriter

theorem sound_start {members : List (Member × Settings)} {member : Member × Settings}
    {past : List Deed} {socket : Socket}
    (hConnection : ((ofMembers members).enactAll past).connections[index]? = some base)
    (hOutlet : base.outlet = .socket socket) (hMember : members[base.site]? = some member)
    (task : Task) : Sound index base (start ((ofMembers members).enactAll past) index task) := by
  have hPlaced := placed_ofMembers members
  have hOrderly := orderly_ofMembers members
  obtain ⟨found, hFound, hBalanced⟩ := balanced_enactAll hPlaced (site_ofMembers hMember)
    (Pool.Balanced.ofSize ..) past
  have hHome : (Event.openWriter index).isUse ((ofMembers members).enactAll past) = true := by
    simp [Event.isUse, siteOf?, hConnection, hFound]
  exact ⟨⟨hPlaced.enactAll past, hOrderly.enactAll hPlaced past,
    (enlisted_ofMembers members).enactAll hOrderly hPlaced past, ⟨_, found, hFound, hBalanced⟩,
    base, socket, hConnection, hOutlet, rfl⟩, .begin hHome task, rfl⟩

end Passage

end ConfigExchange
