import ShaderGraph.Proofs.CompileOutcome
import ShaderGraph.Proofs.Observers

namespace ShaderGraph

variable {σ τ : Type}

namespace Audience

def host (audience : Audience σ) (limits : Limits) (log : LogRecord → σ → σ) : Host σ :=
  ⟨limits, log, audience.notify⟩

def watched (audience : Audience σ) (limits : Limits) (log : LogRecord → σ → σ) : Host (σ × List (Nat × Emission)) :=
  audience.traced.host limits fun record state => (log record state.1, state.2)

end Audience

theorem NodeKind.relay?_print {kind : NodeKind} (print : kind = .print) : kind.relay? = some "output" := by
  rw [print]
  rfl

theorem Host.apply_unwritten {host : Host σ} {node : Node} (print : node.kind = .print) {inputs : Inputs}
    {e : Expression} (given : inputs.lookup "output" = some e) (output : Option String) {run : Run σ} {cause : Error}
    (unwritten : Source.render host.limits.digits run.pass.options e = .error cause) :
    (host.apply node inputs output).outcome run = (.error cause, run) := by
  have announced : (host.announce node.name e).outcome run = (.error cause, run) := by
    rw [announce, Step.outcome_bind_ok (Step.outcome_get run), unwritten]
    rfl
  rw [apply, Step.outcome_bind_ok (Step.outcome_get run),
    Step.outcome_bind_ok (Resolving.naming_relay (NodeKind.relay?_print print) given output run), announceFrom, if_pos print,
    Step.outcome_bind_error announced]

namespace Scene

theorem compile_agree {scene : Scene σ} {other : Scene τ} (options : Options) (root : Root) (socket : Option String)
    {relation : List Emission → σ → τ → Prop} (sound : scene.graph.Sound)
    (graph : other.graph = scene.graph) (catalog : other.catalog = scene.catalog)
    (limits : other.host.limits = scene.host.limits) (logs : Host.LogAlike relation scene.host other.host)
    (delivers : ∀ node, scene.graph.rootNode root = .ok node → node.kind = .print →
      Host.DeliverAlike relation scene.host other.host)
    (world : σ) (twinWorld : τ) (start : relation [] world twinWorld) :
    ∃ emissions, Agree (relation emissions) ((scene.compile options root socket).outcome world)
        ((other.compile options root socket).outcome twinWorld) ∧
      ∀ result, ((scene.compile options root socket).outcome world).1 = .ok result → result.emissions = emissions := by
  cases found : scene.graph.rootNode root with
  | error cause =>
    rw [compile_missing found, compile_missing (graph ▸ found)]
    exact ⟨[], Agree.intro rfl start, by simp⟩
  | ok node =>
    rw [compile_found found, compile_found (graph ▸ found)]
    have opened := logs (scene.opening node socket) _ _ _ start
    have same : other.opening node socket = scene.opening node socket := by rw [opening, opening, graph]
    have fresh : Tandem relation (⟨.fresh options, [], scene.host.log (scene.opening node socket) world⟩ : Run σ)
        ⟨.fresh options, [], other.host.log (other.opening node socket) twinWorld⟩ := ⟨rfl, rfl, same ▸ opened⟩
    have agree := resolve_agree sound graph catalog logs scene.host.limits.nesting (delivers node found) socket fresh
    unfold resolveFresh
    rw [limits]
    have outcome := agree.outcome
    have tandem := agree.state
    generalize (scene.resolve scene.host.limits.nesting node socket).outcome _ = left at outcome tandem ⊢
    generalize (other.resolve scene.host.limits.nesting node socket).outcome _ = right at outcome tandem ⊢
    obtain ⟨ended, run⟩ := left
    obtain ⟨twinEnded, twinRun⟩ := right
    simp only at outcome
    subst outcome
    refine ⟨run.pass.emissions, ?_⟩
    cases twinEnded with
    | error cause => exact ⟨Agree.intro rfl tandem.world, by simp [conclude]⟩
    | ok e =>
      have pass : twinRun.pass = run.pass := tandem.pass
      simp only [conclude, graph, limits, pass]
      cases Source.render scene.host.limits.digits options e with
      | error cause => exact ⟨Agree.intro rfl tandem.world, by simp⟩
      | ok source => exact ⟨Agree.intro rfl (logs _ _ _ _ tandem.world), by simp⟩

variable {scene : Scene σ} {options : Options} {root : Root} {node : Node} {socket : Option String}

/-- What a resolution does before the rule of its node: the output asked for has to be declared, and then the inputs are
    resolved. -/
def gather (scene : Scene σ) : (depth : Nat) → Node → Option String → Resolving σ Inputs
  | 0, _, _ => throw .nesting
  | depth + 1, node, socket => do
    let socket ← Step.ofExcept Error.failure (node.output socket)
    modify (·.enter ⟨node.id, node.name, socket⟩)
    scene.inputs (scene.resolve depth) node

section Gather

variable {depth : Nat} {run later : Run σ}

theorem gather_undeclared {cause : Failure} (undeclared : node.output socket = .error cause) :
    (scene.gather (depth + 1) node socket).outcome run = (.error (.failure cause), run) := by
  rw [gather, undeclared]
  rfl

theorem gather_declared {output : Option String} (declared : node.output socket = .ok output) :
    (scene.gather (depth + 1) node socket).outcome run =
      (scene.inputs (scene.resolve depth) node).outcome (run.enter ⟨node.id, node.name, output⟩) := by
  rw [gather, declared, Step.outcome_bind_ok (Step.outcome_ofExcept_ok ..), Step.outcome_bind_ok (Step.outcome_modify ..)]

theorem resolve_stopped {world : σ} {cause : Error}
    (stopped : (scene.gather depth node socket).outcome ⟨.fresh options, [], world⟩ = (.error cause, later)) :
    ∃ last, (scene.resolve depth node socket).outcome ⟨.fresh options, [], world⟩ = (.error cause, last) ∧
      last.world = later.world := by
  cases depth with
  | zero =>
    cases stopped
    exact ⟨_, rfl, rfl⟩
  | succ depth =>
    rw [resolve]
    cases declared : node.output socket with
    | error failure =>
      rw [gather_undeclared declared] at stopped
      cases stopped
      exact ⟨_, step_undeclared declared, rfl⟩
    | ok output =>
      rw [gather_declared declared] at stopped
      rw [step_visit declared (by simp [Pass.fresh, Pass.state]), work_failed stopped]
      exact ⟨_, rfl, rfl⟩

theorem resolve_gathered {world : σ} {inputs : Inputs}
    (gathered : (scene.gather depth node socket).outcome ⟨.fresh options, [], world⟩ = (.ok inputs, later)) :
    ∃ output record, node.output socket = .ok output ∧
      let applied := (scene.host.apply node inputs output).outcome { later with world := scene.host.log record later.world }
      (scene.resolve depth node socket).outcome ⟨.fresh options, [], world⟩ =
        (applied.1, applied.2.leave ⟨node.id, node.name, output⟩ applied.1) := by
  cases depth with
  | zero => cases gathered
  | succ depth =>
    cases declared : node.output socket with
    | error failure =>
      rw [gather_undeclared declared] at gathered
      cases gathered
    | ok output =>
      rw [gather_declared declared] at gathered
      refine ⟨output, ⟨LogLevel.debug, "Resolving " ++ outputText node.name output⟩, rfl, ?_⟩
      have worked : (scene.work (scene.resolve depth) node output).outcome _ = _ := Step.outcome_bind_ok gathered
      rw [note, Step.outcome_bind_ok (Resolving.outcome_outside ..)] at worked
      rw [resolve, step_visit declared (by simp [Pass.fresh, Pass.state]), worked]
      rfl

theorem print_gathered (sound : scene.graph.Sound) (conforms : scene.catalog.Conforms) (valid : options.Valid)
    (inside : node ∈ scene.graph.nodes) (print : node.kind = .print) {world : σ} {inputs : Inputs}
    (gathered : (scene.gather depth node socket).outcome ⟨.fresh options, [], world⟩ = (.ok inputs, later))
    (digits : Option Nat) :
    later.pass.options = options ∧ ∃ e, inputs.lookup "output" = some e ∧
      (options.Fits digits ∧ (∃ source, Source.render digits options e = .ok source) ∨
        ¬options.Fits digits ∧ Overlong digits (Source.render digits options e)) := by
  cases depth with
  | zero => cases gathered
  | succ depth =>
    cases declared : node.output socket with
    | error failure =>
      rw [gather_undeclared declared] at gathered
      cases gathered
    | ok output =>
      rw [gather_declared declared] at gathered
      have unvisited : (Pass.fresh options).state ⟨node.id, output⟩ = .unvisited := by simp [Pass.fresh, Pass.state]
      have entered := (scene.ready_fresh options world).enter sound inside unvisited
      obtain ⟨ready, fed⟩ := entered.gathered sound conforms valid
        (fun node inside asked run => scene.resolve_resolves (fun _ => id) depth inside asked run) gathered
      have takes : ⟨"output", .vec4, false⟩ ∈ node.kind.inputs := by simp [print, NodeKind.inputs]
      obtain ⟨own, declares, named, _⟩ := conforms.socket takes
      obtain ⟨e, found⟩ := Option.isSome_iff_exists.mp (fed.lookup declares)
      obtain ⟨types, _, entries⟩ := ready.typed
      have typed := fed.typed entries _ (Shading.mem_of_lookup found)
      rw [named] at found
      exact ⟨ready.same, e, found, typed.render valid⟩

end Gather

structure Untold (audience : Audience σ) (observers : List Nat) (emissions : List Emission)
    (state : σ × List (Nat × Emission)) : Prop where
  emissions : emissions = []
  calls : state.2 = []
  registered : audience.registered state.1 = observers

/-- How a compile from a Print node ends, by what came of its inputs: they failed; or what they gave cannot be written;
    or its source is emitted, and the observers are told one after the other. -/
inductive Printed (audience : Audience σ) (observers : List Nat) (digits : Option Nat) (options : Options) (node : Node)
    (socket : Option String) : Except Error Inputs → Except Error CompileResult × σ × List (Nat × Emission) → Prop
  | failed {cause : Error} {state : σ} :
      Printed audience observers digits options node socket (.error cause)
        (.error (cause.atRoot node.name (node.target socket)), state, [])
  | unwritten {inputs : Inputs} {limit : Nat} {state : σ} (bound : digits = some limit) (beyond : ¬options.Fits digits) :
      Printed audience observers digits options node socket (.ok inputs) (.error (.overlong limit), state, [])
  | emitted {inputs : Inputs} {e : Expression} {source : String} {state after : σ} {called : List Nat}
      {ended : Except Error Unit × σ} {compiled : Except Error CompileResult}
      (fits : options.Fits digits) (given : inputs.lookup "output" = some e)
      (rendered : Source.render digits options e = .ok source) (complete : Source.Complete options e source)
      (registered : audience.registered state = observers)
      (delivers : audience.Delivers ⟨node.name, source⟩ observers state called ended)
      (returns : ended.1 = .ok () →
        compiled = .ok ⟨node.name, some source, none, [⟨node.name, source⟩], e.statements.length⟩)
      (raises : ∀ error, ended.1 = .error error → error ≠ .nesting → compiled = .error error) :
      Printed audience observers digits options node socket (.ok inputs)
        (compiled, after, called.map fun observer => (observer, ⟨node.name, source⟩))

structure Protocol (scene : Scene (σ × List (Nat × Emission))) (audience : Audience σ) (options : Options) (root : Root)
    (socket : Option String) (world : σ) (told : Except Error CompileResult × σ × List (Nat × Emission)) : Prop where
  quiet : (∀ node, scene.graph.rootNode root = .ok node → node.kind ≠ .print) →
    told.2.2 = [] ∧ ∀ result, told.1 = .ok result → result.emissions = []
  print : ∀ node, scene.graph.rootNode root = .ok node → node.kind = .print →
    Printed audience (audience.registered world) scene.host.limits.digits options node socket
      ((scene.gather scene.host.limits.nesting node socket).outcome
        ⟨.fresh options, [], scene.host.log (scene.opening node socket) (world, [])⟩).1 told

section Watched

variable {audience : Audience σ} {limits : Limits} {log : LogRecord → σ → σ} {observers : List Nat} {catalog : Catalog}
  {graph : Graph}

theorem compile_traced (sound : graph.Sound) (world : σ) :
    (compile ⟨catalog, graph, audience.host limits log⟩ options root socket).outcome world =
      (((compile ⟨catalog, graph, audience.watched limits log⟩ options root socket).outcome (world, [])).1,
        ((compile ⟨catalog, graph, audience.watched limits log⟩ options root socket).outcome (world, [])).2.1) := by
  let telling : Scene σ := ⟨catalog, graph, audience.host limits log⟩
  let watched : Scene (σ × List (Nat × Emission)) := ⟨catalog, graph, audience.watched limits log⟩
  have logs : Host.LogAlike (fun _ state twin => twin.1 = state) telling.host watched.host := by
    intro record emissions state twin same
    show log record twin.1 = log record state
    rw [same]
  have delivers : Host.DeliverAlike (fun _ state twin => twin.1 = state) telling.host watched.host := by
    refine ⟨rfl, fun emission emissions state twin same => ?_⟩
    obtain ⟨_, calls⟩ := twin
    subst same
    exact audience.notify_agree emission _ calls
  have sameGraph : watched.graph = telling.graph := rfl
  obtain ⟨_, agree, _⟩ := compile_agree options root socket sound sameGraph rfl rfl logs (fun _ _ _ => delivers)
    world (world, []) rfl
  exact Prod.ext agree.outcome.symm agree.state.symm

theorem tryCompile_calls (world : σ) :
    let scene : Scene (σ × List (Nat × Emission)) := ⟨catalog, graph, audience.watched limits log⟩
    let told := (scene.compile options root socket).outcome (world, [])
    let reported := (scene.tryCompile options root socket).outcome (world, [])
    reported.2.2 = told.2.2 ∧ ∀ result, reported.1 = .ok result → told.1 = .ok result ∨ result.emissions = [] := by
  intro scene told
  rw [tryCompile, Step.outcome_bind_ok (Step.outcome_attempt ..)]
  simp only [told]
  generalize (scene.compile options root socket).outcome (world, []) = ended
  obtain ⟨outcome, after⟩ := ended
  cases outcome with
  | ok result => exact ⟨rfl, fun other same => .inl same⟩
  | error error =>
    cases error with
    | failure failure =>
      refine ⟨rfl, ?_⟩
      intro result reports
      cases reports
      exact .inr rfl
    | _ => exact ⟨rfl, fun result reports => by cases reports⟩

variable (kept : ∀ record state, audience.registered (log record state) = audience.registered state)

include kept

theorem untold_log : Host.LogAlike (fun emissions state _ => Untold audience observers emissions state)
    (audience.watched limits log) (audience.watched limits log) :=
  fun record _ state _ untold => ⟨untold.emissions, untold.calls, (kept record state.1).trans untold.registered⟩

theorem apply_told (print : node.kind = .print) {inputs : Inputs} {e : Expression}
    (given : inputs.lookup "output" = some e) (output : Option String) {run : Run (σ × List (Nat × Emission))}
    (untold : Untold audience observers run.pass.emissions run.world) {source : String}
    (rendered : Source.render limits.digits run.pass.options e = .ok source) :
    ∃ state called ended, audience.registered state = observers ∧
      audience.Delivers ⟨node.name, source⟩ observers state called ended ∧
      ((audience.watched limits log).apply node inputs output).outcome run =
        (ended.1.map fun _ => e, { run with
          pass := { run.pass with emissions := [⟨node.name, source⟩] }
          world := (ended.2, called.map fun observer => (observer, ⟨node.name, source⟩)) }) := by
  obtain ⟨pass, stack, world, calls⟩ := run
  obtain ⟨none, uncalled, registered⟩ := untold
  simp only at none uncalled registered rendered
  subst uncalled
  let record : LogRecord := ⟨LogLevel.debug,
    "Print '" ++ node.name ++ "': emitting " ++ toString e.statements.length ++ " statements"⟩
  have now : audience.registered (log record world) = observers := (kept record world).trans registered
  obtain ⟨called, ended, delivers, outcome⟩ := audience.traced_notify ⟨node.name, source⟩ (log record world) []
  rw [now] at delivers
  refine ⟨log record world, called, ended, now, delivers, ?_⟩
  have named := Resolving.naming_relay (NodeKind.relay?_print print) given output
    (⟨pass, stack, world, []⟩ : Run (σ × List (Nat × Emission)))
  have announced : ((audience.watched limits log).announce node.name e).outcome ⟨pass, stack, world, []⟩ =
      (ended.1, ⟨{ pass with emissions := [⟨node.name, source⟩] }, stack, ended.2,
        called.map fun observer => (observer, ⟨node.name, source⟩)⟩) := by
    rw [Host.announce, Step.outcome_bind_ok (Step.outcome_get _)]
    simp only [Audience.watched, Audience.host, rendered]
    rw [Step.outcome_bind_ok (Step.outcome_ofExcept_ok ..), Step.outcome_bind_ok (Resolving.outcome_outside ..), Host.emit,
      Resolving.onPass, Step.outcome_bind_ok (Step.outcome_modify ..), Resolving.outcome_outside]
    simp only [record] at outcome
    simp only [Host.write, Step.outcome_modify, outcome, none, List.nil_append]
  rw [Host.apply, Step.outcome_bind_ok (Step.outcome_get _), Step.outcome_bind_ok named, Host.announceFrom, if_pos print,
    Step.outcome_bind, announced]
  rcases ended with ⟨cause | _, after⟩ <;> rfl

variable (sound : graph.Sound)

include sound

theorem gather_untold {depth : Nat} {run later : Run (σ × List (Nat × Emission))} {ended : Except Error Inputs}
    (gathered : (gather ⟨catalog, graph, audience.watched limits log⟩ depth node socket).outcome run = (ended, later))
    (untold : Untold audience observers run.pass.emissions run.world) :
    Untold audience observers later.pass.emissions later.world := by
  let watched : Scene (σ × List (Nat × Emission)) := ⟨catalog, graph, audience.watched limits log⟩
  have sound : watched.graph.Sound := sound
  have logs : Host.LogAlike (fun emissions state _ => Untold audience observers emissions state) watched.host
      watched.host := untold_log kept
  cases depth with
  | zero =>
    cases gathered
    exact untold
  | succ depth =>
    cases declared : node.output socket with
    | error failure =>
      rw [gather_undeclared declared] at gathered
      cases gathered
      exact untold
    | ok output =>
      rw [gather_declared declared] at gathered
      have entered : Tandem (fun emissions state _ => Untold audience observers emissions state)
        (run.enter ⟨node.id, node.name, output⟩) (run.enter ⟨node.id, node.name, output⟩) := ⟨rfl, rfl, untold⟩
      -- No Print node is upstream of another node.
      have inputs := inputs_agree sound rfl rfl (fun source other asked run twin tandem =>
        resolve_agree sound rfl rfl logs depth (fun print => absurd print other) asked tandem) node entered
      rw [gathered] at inputs
      exact inputs.state.world

variable (conforms : catalog.Conforms) (valid : options.Valid)

include conforms valid

theorem compile_printed (found : graph.rootNode root = .ok node) (print : node.kind = .print) {world : σ}
    (registered : audience.registered world = observers) :
    let watched : Scene (σ × List (Nat × Emission)) := ⟨catalog, graph, audience.watched limits log⟩
    Printed audience observers watched.host.limits.digits options node socket
      ((watched.gather watched.host.limits.nesting node socket).outcome
        ⟨.fresh options, [], watched.host.log (watched.opening node socket) (world, [])⟩).1
      ((watched.compile options root socket).outcome (world, [])) := by
  intro watched
  have compiled : (watched.compile options root socket).outcome (world, []) = watched.conclude options node socket
    (watched.resolveFresh options node socket (watched.host.log (watched.opening node socket) (world, []))) :=
      compile_found found (world, [])
  have untold : Untold audience observers (Pass.fresh options).emissions
      (watched.host.log (watched.opening node socket) (world, [])) := ⟨rfl, rfl, (kept _ world).trans registered⟩
  have inside : node ∈ watched.graph.nodes := Graph.mem_of_rootNode found
  rw [compiled, resolveFresh]
  generalize watched.host.log (watched.opening node socket) (world, []) = start at untold ⊢
  rcases gathered : (watched.gather watched.host.limits.nesting node socket).outcome ⟨.fresh options, [], start⟩ with
    ⟨cause | inputs, later⟩
  all_goals
    have still := gather_untold kept sound gathered untold
    have uncalled : later.world = (later.world.1, []) := Prod.ext rfl still.calls
  · obtain ⟨last, stopped, same⟩ := resolve_stopped gathered
    rw [stopped, conclude, same, uncalled]
    exact .failed
  · obtain ⟨same, e, given, text⟩ := print_gathered sound conforms valid inside print gathered watched.host.limits.digits
    obtain ⟨output, record, _, resolved⟩ := resolve_gathered gathered
    let noted : Run (σ × List (Nat × Emission)) := { later with world := watched.host.log record later.world }
    have untold : Untold audience observers noted.pass.emissions noted.world :=
      ⟨still.emissions, still.calls, (kept record _).trans still.registered⟩
    have same : noted.pass.options = options := same
    rw [resolved]
    rcases text with ⟨fits, source, rendered⟩ | ⟨beyond, limit, bound, stopped⟩
    · obtain ⟨state, called, ended, now, delivers, applied⟩ :=
        apply_told kept print given output untold (same.symm ▸ rendered)
      rw [show (watched.host.apply node inputs output).outcome noted = _ from applied]
      obtain ⟨outcome, after⟩ := ended
      cases outcome with
      | ok _ =>
        simp only [Except.map, conclude, rendered]
        exact .emitted fits given rendered (Source.render_complete rendered) now delivers (fun _ => rfl) (by simp)
      | error error =>
        refine .emitted fits given rendered (Source.render_complete rendered) now delivers (by simp) ?_
        rintro other ⟨rfl⟩ unnested
        cases error with
        | nesting => exact absurd rfl unnested
        | _ => rfl
    · rw [← same] at stopped
      rw [show (watched.host.apply node inputs output).outcome noted = _ from
        Host.apply_unwritten print given output stopped]
      have uncalled : noted.world = (noted.world.1, []) := Prod.ext rfl untold.calls
      show Printed audience observers _ options node socket _ (.error (.overlong limit), noted.world)
      rw [uncalled]
      exact .unwritten bound beyond

theorem compile_protocol (socket : Option String) (world : σ) :
    let watched : Scene (σ × List (Nat × Emission)) := ⟨catalog, graph, audience.watched limits log⟩
    watched.Protocol audience options root socket world ((watched.compile options root socket).outcome (world, [])) := by
  intro watched
  have logs : Host.LogAlike (fun emissions state _ => Untold audience (audience.registered world) emissions state)
      watched.host watched.host := untold_log kept
  have start : Untold audience (audience.registered world) [] (world, []) := ⟨rfl, rfl, rfl⟩
  refine ⟨fun other => ?_, fun node found print => compile_printed kept sound conforms valid found print rfl⟩
  obtain ⟨emissions, agree, emitted⟩ := compile_agree options root socket sound rfl rfl rfl logs
    (fun node found print => absurd print (other node found)) (world, []) (world, []) start
  exact ⟨agree.state.calls, fun result ok => (emitted result ok).trans agree.state.emissions⟩

end Watched

/-- Observers are called by compiles from Print nodes only, and then once each, in the order of registration, until one
    of them raises; a compile that fails before it emits calls nobody. -/
theorem emission_protocol {catalog : Catalog} (conforms : catalog.Conforms) {graph : Graph} (built : graph.Built)
    (valid : options.Valid) (audience : Audience σ) (limits : Limits) (log : LogRecord → σ → σ)
    (kept : ∀ record state, audience.registered (log record state) = audience.registered state)
    (calls : List Registration) (world : σ)
    (registered : audience.registered world = (Compiler.enlist ⟨options, []⟩ calls).observers) (root : Root)
    (socket : Option String) :
    let watched : Scene (σ × List (Nat × Emission)) := ⟨catalog, graph, audience.watched limits log⟩
    let told := (watched.compile options root socket).outcome (world, [])
    let reported := (watched.tryCompile options root socket).outcome (world, [])
    Registration.Enlisted calls (audience.registered world) ∧
      watched.Protocol audience options root socket world told ∧
      (compile ⟨catalog, graph, audience.host limits log⟩ options root socket).outcome world = (told.1, told.2.1) ∧
      reported.2.2 = told.2.2 ∧ ∀ result, reported.1 = .ok result → told.1 = .ok result ∨ result.emissions = [] := by
  intro watched told reported
  refine ⟨?_, compile_protocol kept built.sound conforms valid socket world, compile_traced built.sound world,
    tryCompile_calls world⟩
  rw [registered]
  exact Compiler.enlist_enlisted options calls

end Scene

def Graph.shown : Graph where
  key := 0
  name := standardName
  nodes := [⟨⟨0, 0⟩, .uv, "uv", []⟩, ⟨⟨0, 1⟩, .print, "show", []⟩]
  links := [⟨⟨0, 0⟩, "uv", ⟨0, 1⟩, "output"⟩]
  issued := 2

theorem Graph.shown_built : shown.Built := by
  have uv := (Built.empty 0 standardName).add .uv "uv" rfl (by decide) (by decide)
  have print := uv.add .print "show" rfl (by decide) (by decide)
  exact print.join ⟨⟨0, 0⟩, .uv, "uv", []⟩ "uv" ⟨⟨0, 1⟩, .print, "show", []⟩ "output" rfl

def Audience.unruly : Audience Compiler where
  registered := Compiler.observers
  react observer _ := match observer with
    | 1 => modify fun compiler => (compiler.removeObserver 2).addObserver 3
    | 2 => throw (.host "enough")
    | _ => pure ()

/-- The first observer is called although it was removed once, and the second although it is removed during the delivery;
    the last one is not called, since the second raises. -/
theorem Scene.emission_protocol_shown :
    let calls : List Registration := [.add 2, .add 1, .remove 2, .add 2, .add 4]
    let compiler : Compiler := Compiler.enlist ⟨.standard, []⟩ calls
    let watched : Scene (Compiler × List (Nat × Emission)) :=
      ⟨.shipped, .shown, Audience.unruly.watched .standard fun _ compiler => compiler⟩
    let told := (watched.compile .standard (.named "show") none).outcome (compiler, [])
    Catalog.shipped.Conforms ∧ Graph.shown.Built ∧ Options.standard.Valid ∧ Registration.Enlisted calls [1, 2, 4] ∧
      told.2.2.map Prod.fst = [1, 2] ∧ told.2.1.observers = [1, 4, 3] ∧
      watched.Protocol Audience.unruly .standard (.named "show") none compiler told := by
  intro calls compiler watched told
  have registered : Audience.unruly.registered compiler = [1, 2, 4] := by decide
  obtain ⟨enlisted, protocol, _⟩ := emission_protocol Catalog.shipped_conforms Graph.shown_built Options.standard_valid
    Audience.unruly .standard (fun _ compiler => compiler) (fun _ _ => rfl) calls compiler rfl (.named "show") none
  rw [registered] at enlisted
  exact ⟨Catalog.shipped_conforms, Graph.shown_built, Options.standard_valid, enlisted, by decide +kernel,
    by decide +kernel, protocol⟩

end ShaderGraph
