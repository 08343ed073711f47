import ConfigExchange.Scenario.Start

/-! How jobs go on, one step at a time. -/
namespace ConfigExchange.Scenario.State

/-- Goes on with a part of a job on the cluster. -/
def proceed {α : Type} (state : State) (next : Option (α × Cluster)) (job : α → Job) : Progress :=
  match next with
  | none => .waiting
  | some (part, cluster) => .going (job part) { state with cluster }

/-- Goes on with the session of a job. -/
def proceedSession (state : State) (id : SessionId) (job : Job) : Progress :=
  state.proceed ((state.cluster.step id).map fun cluster => ((), cluster)) fun _ => job

/-- One step of a request over a pair. The pair gets its name back with the answer. -/
def stepRequestOverPair (state : State) (name : String) (pair : Pair) (requesting : Requesting) :
    Progress :=
  match requesting.result? with
  | some result => .done (.requested result) (state.namePair name pair)
  | none => state.proceed (requesting.step state.cluster) (.requestingOverPair name pair)

/-- One step of the closing of a pair, which waits for its server. -/
def stepClosingPair (state : State) (pair : Pair) (closer : SessionId) : Progress :=
  match state.cluster.sessions[closer]? with
  | some (.closing _ (.finished result)) =>
    match state.served.lookup pair.channel with
    | some served => .done (.pairClosed result served) (state.dropPair pair)
    | none => .waiting
  | _ => state.proceedSession closer (.closingPair pair closer)

/-- One step of the server of a pair. When it is done, its end of the channel is given up. -/
def stepHosting (state : State) (channel : Nat) (serving : Serving) : Progress :=
  match serving.result? with
  | some result =>
    .done .nothing { state with
      cluster := state.cluster.dropChannel channel
      served := (channel, result) :: state.served }
  | none => state.proceed (serving.step state.cluster) (.hosting channel)

/-- One step of a job. -/
def stepJob (state : State) : Job → Progress
  | .starting action => state.begin action
  | .borrowing name loan =>
    match state.cluster.sessions[loan]? with
    | some (.loan _ (.lent buffer)) => .done (.loan (.ok buffer)) (state.nameLoan name loan)
    | some (.loan _ (.failed error)) => .done (.loan (.error error)) state
    | _ => state.proceedSession loan (.borrowing name loan)
  | .opening name writer =>
    match state.cluster.sessions[writer]? with
    | some (.writer index (.opened buffer)) =>
      state.orMissing state.cluster.connections[index]? fun connection =>
        .done (.writer (.ok (connection, buffer))) (state.nameWriter name writer)
    | some (.writer _ (.finished (.error error))) => .done (.writer (.error error)) state
    | _ => state.proceedSession writer (.opening name writer)
  | .flushing writer =>
    match state.cluster.sessions[writer]? with
    | some (.writer _ (.finished result)) => .done (.written result) state
    | _ => state.proceedSession writer (.flushing writer)
  | .closing closer =>
    match state.cluster.sessions[closer]? with
    | some (.closing _ (.finished result)) => .done (.written result) state
    | _ => state.proceedSession closer (.closing closer)
  | .sending name (.finished sender result) =>
    .done (.sent result sender) { state with senders := state.senders.insert name sender }
  | .sending name delivery => state.proceed (delivery.step state.cluster) (.sending name)
  | .answering (.finished result) => .done (.answered result) state
  | .answering answering => state.proceed (answering.step state.cluster) .answering
  | .serving serving =>
    match serving.result? with
    | some result => .done (.served result) state
    | none => state.proceed (serving.step state.cluster) .serving
  | .requesting requesting =>
    match requesting.result? with
    | some result => .done (.requested result) state
    | none => state.proceed (requesting.step state.cluster) .requesting
  | .requestingOverPair name pair requesting => state.stepRequestOverPair name pair requesting
  | .closingPair pair closer => state.stepClosingPair pair closer
  | .hosting channel serving => state.stepHosting channel serving

end ConfigExchange.Scenario.State
