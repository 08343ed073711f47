import ConfigExchange.Scenario.Job

/-! How actions start. Most are done at once; the others become jobs. -/
namespace ConfigExchange.Scenario

/-- The member whose actions these are. -/
def localMember : Member := ⟨.v4 ⟨#[127, 0, 0, 1], rfl⟩ 10334, 1⟩

/-- The member whose requesters are at the other ends of pairs. -/
def otherMember : Member := ⟨.v4 ⟨#[127, 0, 0, 1], rfl⟩ 40001, 2⟩

/-- The site of the first member. -/
def localSite : Nat := 0

/-- The site of the other member. -/
def otherSite : Nat := 1

namespace State

/-- The state in which nothing has happened. -/
def start (settings otherSettings : Settings) : State where
  cluster := { sites := [.ofSettings localMember settings, .ofSettings otherMember otherSettings] }

/-- Goes on with what a name stands for, if it stands for something. -/
def orMissing {α : Type} (state : State) (found : Option α) (next : α → Progress) : Progress :=
  found.elim (.done .missing state) next

/-- How often each source that has a name was asked for a snapshot. -/
def snapshotsTaken (state : State) : List (String × Nat) :=
  state.sources.entries.map fun (name, index) =>
    (name, (state.cluster.sources[index]?.map (·.snapshotsTaken)).getD 0)

/-- Changes the site of the member. -/
def modifySite (state : State) (change : Site → Site) : State :=
  { state with cluster := state.cluster.modifySite localSite change }

/-- Starts an action on the site of the member. -/
def beginSite (state : State) (site : Site) : SiteAction → Progress
  | .view => .done (.site site) state
  | .shutdown reason => .done .nothing (state.modifySite (·.shutdown reason))
  | .cancel reason => .done .nothing (state.modifySite (·.cancel reason))
  | .closePool =>
    .done .nothing (state.modifySite fun site => { site with pool := site.pool.close })
  | .stopService =>
    .done .nothing (state.modifySite fun site => { site with service := site.service.stop })
  | .viewStatus => .done (.status site.service.status) state
  | .publish name =>
    state.orMissing (state.sources.get? name) fun index =>
      match site.service.offer index with
      | .error _ => .done (.rejected name) state
      | .ok service => .done .published (state.modifySite fun site => { site with service })
  | .handle groups useCache =>
    let (outcome, cluster) := state.cluster.handle localSite useCache groups
    let later := { state with cluster }
    .done (.handled outcome later.snapshotsTaken) later

/-- Starts an action on a source. One that holds no store can be replaced only. -/
def beginSource (state : State) (name : String) : SourceAction → Progress
  | .add content =>
    let (index, cluster) := state.cluster.addSource content
    .done .nothing { state with cluster, sources := state.sources.insert name index }
  | .replace content =>
    state.orMissing (state.sources.get? name) fun index =>
      .done .nothing { state with cluster := state.cluster.setSource index content }
  | .ask operation =>
    state.orMissing (state.sources.get? name) fun index =>
      match state.cluster.sources[index]? with
      | some ⟨.store store, _⟩ =>
        let (answer, store) := store.perform operation
        .done (.store answer store.generation)
          { state with cluster := state.cluster.setSource index (.store store) }
      | _ => .done .missing state

/-- Starts an action on a loan. -/
def beginLoan (state : State) (name : String) : LoanAction → Progress
  | .borrow limit =>
    let (loan, cluster) := state.cluster.borrow localSite limit
    .going (.borrowing name loan) { state with cluster }
  | .fill bytes =>
    state.orMissing (state.loans.get? name) fun loan =>
      let cluster := state.cluster.append loan [bytes]
      state.orMissing (cluster.buffer? loan) fun buffer =>
        .done (.filledLoan buffer) { state with cluster }
  | .giveBack =>
    match state.loans.get? name with
    | none => .done (.flag false) state
    | some loan =>
      .done (.flag true) ({ state with loans := state.loans.erase name }.dropSession loan)

/-- Starts an action on a writer. -/
def beginWriter (state : State) (name : String) : WriterAction → Progress
  | .obtain connection =>
    state.orMissing (state.connections.get? connection) fun index =>
      let (writer, cluster) := state.cluster.openWriter index
      .going (.opening name writer) { state with cluster }
  | .fill bytes =>
    state.orMissing (state.writers.get? name) fun writer =>
      let cluster := state.cluster.append writer [bytes]
      state.orMissing (cluster.buffer? writer) fun buffer =>
        .done (.filled (.ok ()) buffer.bytes) { state with cluster }
  | .encode message =>
    state.orMissing (state.writers.get? name) fun writer =>
      let (result, cluster) := state.cluster.encode writer message
      state.orMissing (cluster.buffer? writer) fun buffer =>
        .done (.filled result buffer.bytes) { state with cluster }
  | .flush =>
    state.orMissing (state.writers.get? name) fun writer =>
      let (result, cluster) := state.cluster.flushIn .debug writer
      let later := { state with cluster, writers := state.writers.erase name }
      match result with
      | .ok () => .going (.flushing writer) later
      | .error failed => .done (.panicked failed) later
  | .drop =>
    match state.writers.get? name with
    | none => .done (.flag false) state
    | some writer =>
      .done (.flag true) ({ state with writers := state.writers.erase name }.dropSession writer)

/-- Starts an action on a connection. -/
def beginConnection (state : State) (name : String) : ConnectionAction → Progress
  | .connect remote version script =>
    let (index, cluster) := state.cluster.connect localSite remote version (.socket { script })
    .done .nothing { state with cluster, connections := state.connections.insert name index }
  | .view =>
    state.orMissing (state.connection? name) fun (_, connection) =>
      .done (.connection connection (state.cluster.cancelReason connection)) state
  | .close =>
    state.orMissing (state.connections.get? name) fun index =>
      let (closer, cluster) := state.cluster.close index
      .going (.closing closer) { state with cluster }
  | .unstall =>
    state.orMissing (state.connections.get? name) fun index =>
      .done .nothing { state with cluster := state.cluster.unstall index }
  | .addSender sender =>
    state.orMissing (state.connection? name) fun (index, connection) =>
      let fresh : Sender := { connection := index, recipient := connection.remote }
      .done .nothing { state with senders := state.senders.insert sender fresh }
  | .answer frame =>
    state.orMissing (state.connections.get? name) fun index =>
      .going (.answering (.starting index frame)) state
  | .serve requests =>
    state.orMissing (state.connections.get? name) fun index =>
      .going (.serving { connection := index, inlet := .feed requests }) state
  | .request answers processor groups =>
    state.orMissing (state.connections.get? name) fun index =>
      .going (.requesting (.start index (.feed answers) processor groups)) state

/-- Joins a server and a requester by a channel. The server goes on by itself. -/
def join (state : State) (name : String) (version requesterVersion : Version) (capacity : Nat) :
    State :=
  let (channel, cluster) := state.cluster.addChannel (.ofCapacity capacity)
  let (server, cluster) :=
    cluster.connect localSite otherMember version (.channel channel .acceptor)
  let (requester, cluster) :=
    cluster.connect otherSite localMember requesterVersion (.channel channel .dialer)
  let serving : Serving := { connection := server, inlet := .channel channel .acceptor }
  ({ state with cluster }.addTask none (.hosting channel serving)).namePair name
    ⟨requester, channel⟩

/-- Starts an action on a pair. While it lasts, the pair has no name. -/
def beginPair (state : State) (name : String) : PairAction → Progress
  | .join version requesterVersion capacity =>
    .done .nothing (state.join name version requesterVersion capacity)
  | .request processor groups =>
    state.orMissing (state.pairs.get? name) fun pair =>
      let answers : Inlet := .channel pair.channel .dialer
      let requesting := Requesting.start pair.requester answers processor groups
      .going (.requestingOverPair name pair requesting)
        { state with pairs := state.pairs.erase name }
  | .close =>
    state.orMissing (state.pairs.get? name) fun pair =>
      let (closer, cluster) := state.cluster.close pair.requester
      .going (.closingPair pair closer) { state with cluster, pairs := state.pairs.erase name }

/-- Starts an action. -/
def begin (state : State) : Action → Progress
  | .site action =>
    state.orMissing state.cluster.sites[localSite]? fun site => state.beginSite site action
  | .source name action => state.beginSource name action
  | .loan name action => state.beginLoan name action
  | .writer name action => state.beginWriter name action
  | .connection name action => state.beginConnection name action
  | .send name message =>
    state.orMissing (state.senders.get? name) fun sender =>
      .going (.sending name (.starting sender message))
        { state with senders := state.senders.erase name }
  | .pair name action => state.beginPair name action
  | .abort name =>
    if state.tasks.any fun entry => decide (entry.2.name = some name) then
      .done .nothing (state.abort name)
    else .done .missing state

end State

end ConfigExchange.Scenario
