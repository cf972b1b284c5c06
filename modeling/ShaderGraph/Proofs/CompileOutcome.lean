import ShaderGraph.Compiler
import ShaderGraph.Proofs.Nesting

namespace ShaderGraph

open Relation Shading

theorem Graph.mem_of_rootNode {graph : Graph} {root : Root} {node : Node} (found : graph.rootNode root = .ok node) :
    node ∈ graph.nodes := by
  cases root with
  | node given => exact List.mem_of_find?_eq_some (member_eq_ok_iff.mp found)
  | named name =>
    simp only [rootNode] at found
    split at found
    · rename_i own named
      cases found
      exact List.mem_of_find?_eq_some named
    · cases found

namespace Scene

variable {σ : Type} {scene : Scene σ} {options : Options} {root : Root} {node : Node} {socket : Option String}

def opening (scene : Scene σ) (node : Node) (socket : Option String) : LogRecord :=
  ⟨LogLevel.info, "Compiling '" ++ scene.graph.name ++ "' from " ++ Waypoint.render (node.name, node.target socket)⟩

def conclude (scene : Scene σ) (options : Options) (node : Node) (socket : Option String) :
    Except Error Expression × Run σ → Except Error CompileResult × σ
  | (.error cause, run) => (.error (cause.atRoot node.name (node.target socket)), run.world)
  | (.ok e, run) => match Source.render scene.host.limits.digits options e with
    | .error cause => (.error cause, run.world)
    | .ok source => (.ok ⟨node.name, some source, none, run.pass.emissions, e.statements.length⟩,
        scene.host.log ⟨LogLevel.info, "Compiled '" ++ scene.graph.name ++ "': " ++ toString e.statements.length
          ++ " statements, " ++ toString run.pass.emissions.length ++ " emissions"⟩ run.world)

theorem compile_missing {cause : Failure} (missing : scene.graph.rootNode root = .error cause) (world : σ) :
    (scene.compile options root socket).outcome world = (.error (.failure cause), world) := by
  rw [compile, missing]
  rfl

theorem compile_found (found : scene.graph.rootNode root = .ok node) (world : σ) :
    (scene.compile options root socket).outcome world = scene.conclude options node socket
      (scene.resolveFresh options node socket (scene.host.log (scene.opening node socket) world)) := by
  have wrote : (scene.host.write LogLevel.info
      ("Compiling '" ++ scene.graph.name ++ "' from " ++ Waypoint.render (node.name, node.target socket))).outcome world =
      (.ok (), scene.host.log (scene.opening node socket) world) := rfl
  rw [compile, found, Step.outcome_bind_ok (Step.outcome_ofExcept_ok ..), Step.outcome_bind_ok wrote,
    Step.outcome_bind_ok (Step.outcome_get _)]
  rcases scene.resolveFresh options node socket _ with ⟨cause | e, run⟩
  · rfl
  · simp only [conclude]
    rw [Step.outcome_bind_ok (Step.outcome_set ..), Step.outcome_bind_ok (Step.outcome_ofExcept_ok ..)]
    cases Source.render scene.host.limits.digits options e <;> rfl

theorem compile_cases (scene : Scene σ) (options : Options) (found : scene.graph.rootNode root = .ok node)
    (socket : Option String) (world : σ) :
    ∃ start, start = scene.host.log (scene.opening node socket) world ∧
      (∀ cause, (scene.resolveFresh options node socket start).1 = .error cause →
        ((scene.compile options root socket).outcome world).1 =
          .error (cause.atRoot node.name (node.target socket))) ∧
      ∀ e, (scene.resolveFresh options node socket start).1 = .ok e →
        ((scene.compile options root socket).outcome world).1 =
          (Source.render scene.host.limits.digits options e).map fun source =>
            ⟨node.name, some source, none, (scene.resolveFresh options node socket start).2.pass.emissions,
              e.statements.length⟩ := by
  refine ⟨_, rfl, ?_⟩
  rw [compile_found found]
  rcases scene.resolveFresh options node socket _ with ⟨outcome, run⟩
  constructor
  · rintro cause ⟨rfl⟩
    rfl
  · rintro e ⟨rfl⟩
    unfold conclude
    simp only
    cases Source.render scene.host.limits.digits options e <;> rfl

theorem tryCompile_ok {world : σ} {result : CompileResult}
    (compiled : ((scene.compile options root socket).outcome world).1 = .ok result) :
    ((scene.tryCompile options root socket).outcome world).1 = .ok result := by
  rw [tryCompile, Step.outcome_bind_ok (Step.outcome_attempt ..), compiled]
  rfl

theorem tryCompile_raised {world : σ} {error : Error} (other : ∀ failure, error ≠ .failure failure)
    (compiled : ((scene.compile options root socket).outcome world).1 = .error error) :
    ((scene.tryCompile options root socket).outcome world).1 = .error error := by
  rw [tryCompile, Step.outcome_bind_ok (Step.outcome_attempt ..), compiled]
  cases error with
  | failure failure => exact absurd rfl (other failure)
  | _ => rfl

theorem tryCompile_failed {world : σ} {failure : Failure}
    (compiled : ((scene.compile options root socket).outcome world).1 = .error (.failure failure)) :
    ((scene.tryCompile options root socket).outcome world).1 = .ok (.failed root.name failure) := by
  rw [tryCompile, Step.outcome_bind_ok (Step.outcome_attempt ..), compiled]
  rfl

/-- How a compile from a node ends: the output asked for is declared or it is not, and upstream of the node there may be
    a cycle, or an input that needs a link and has none. Where an integer among the options has too many digits, nothing
    can be written. -/
structure Verdict (scene : Scene σ) (options : Options) (node : Node) (socket : Option String)
    (compiled reported : Except Error CompileResult) : Prop where
  succeeds : (∃ result, compiled = .ok result) ↔ (∀ name, socket = some name → name ∈ node.kind.outputs) ∧
    ¬scene.graph.CyclicAbove node.id ∧ ¬scene.graph.GapAbove scene.catalog node.id ∧
    options.Fits scene.host.limits.digits
  undeclared : ∀ name, socket = some name → name ∉ node.kind.outputs →
    ∃ failure, compiled = .error (.failure failure) ∧ failure.family = .unknownOutputSocket
  fails : (∀ name, socket = some name → name ∈ node.kind.outputs) → ∀ error, compiled = .error error →
    (∃ failure, error = .failure failure ∧
      (failure.family = .cyclicGraph ∧ scene.graph.CyclicAbove node.id ∨
        failure.family = .missingRequiredInput ∧ scene.graph.GapAbove scene.catalog node.id ∧
          scene.catalog ≠ .shipped)) ∨
    Overlong scene.host.limits.digits compiled ∧ ¬options.Fits scene.host.limits.digits ∧
      ¬scene.graph.CyclicAbove node.id ∧ ¬scene.graph.GapAbove scene.catalog node.id
  reports : ¬Overlong scene.host.limits.digits compiled →
    ∃ result, reported = .ok result ∧ (result.source = none ↔ result.failure.isSome) ∧
      (result.failure.isSome ↔ ∃ error, compiled = .error error)
  raises : Overlong scene.host.limits.digits compiled → reported = compiled

theorem output_ok_iff : (∃ output, node.output socket = .ok output) ↔
    ∀ name, socket = some name → name ∈ node.kind.outputs := by
  cases socket with
  | none => simp [Node.output]
  | some name =>
    constructor
    · rintro ⟨output, declared⟩ _ ⟨rfl⟩
      simpa [Template.hasOutput, NodeKind.template] using (output_some declared).2
    · intro member
      exact ⟨some name, by simp [Node.output, Template.hasOutput, NodeKind.template, member name rfl]⟩

theorem shipped_no_gap (graph : Graph) (id : NodeId) : ¬graph.GapAbove .shipped id := by
  rintro ⟨node, _, _, socket, declared, required, _⟩
  rw [Catalog.shipped_optional declared] at required
  cases required

inductive Ends (scene : Scene σ) (options : Options) (node : Node) (socket : Option String) :
    Except Error CompileResult → Prop
  | undeclared {failure : Failure} (absent : ¬∃ output, node.output socket = .ok output)
      (family : failure.family = .unknownOutputSocket) : scene.Ends options node socket (.error (.failure failure))
  | cycle {failure : Failure} (declared : ∃ output, node.output socket = .ok output)
      (family : failure.family = .cyclicGraph) (cyclic : scene.graph.CyclicAbove node.id) :
      scene.Ends options node socket (.error (.failure failure))
  | gap {failure : Failure} (declared : ∃ output, node.output socket = .ok output)
      (family : failure.family = .missingRequiredInput) (gap : scene.graph.GapAbove scene.catalog node.id) :
      scene.Ends options node socket (.error (.failure failure))
  | overlong {limit : Nat} (declared : ∃ output, node.output socket = .ok output)
      (clear : scene.graph.Clear scene.catalog node.id) (bound : scene.host.limits.digits = some limit)
      (beyond : ¬options.Fits scene.host.limits.digits) : scene.Ends options node socket (.error (.overlong limit))
  | done {result : CompileResult} (declared : ∃ output, node.output socket = .ok output)
      (clear : scene.graph.Clear scene.catalog node.id) (fits : options.Fits scene.host.limits.digits)
      (source : result.source.isSome) (unfailed : result.failure = none) : scene.Ends options node socket (.ok result)

def Shallow (compiled : Except Error CompileResult) : Prop :=
  ∀ name target, compiled ≠ .error (.failure (.nestedTooDeeply name target))

theorem output_family {failure : Failure} (undeclared : node.output socket = .error failure) :
    failure.family = .unknownOutputSocket := by
  cases socket with
  | none => cases undeclared
  | some name =>
    simp only [Node.output] at undeclared
    split at undeclared
    · cases undeclared
    · cases undeclared
      rfl

theorem resolveFresh_undeclared {failure : Failure} (undeclared : node.output socket = .error failure) (start : σ) :
    (scene.resolveFresh options node socket start).1 = .error .nesting ∨
      (scene.resolveFresh options node socket start).1 = .error (.failure failure) := by
  unfold resolveFresh
  cases scene.host.limits.nesting with
  | zero => exact .inl rfl
  | succ depth => exact .inr (congrArg Prod.fst (step_undeclared undeclared))

section Compile

variable (built : scene.graph.Built) (valid : options.Valid)

include built valid

theorem resolveFresh_render (inside : node ∈ scene.graph.nodes) {start : σ} {e : Expression}
    (ok : (scene.resolveFresh options node socket start).1 = .ok e) (digits : Option Nat) :
    options.Fits digits ∧ (∃ source, Source.render digits options e = .ok source) ∨
      ¬options.Fits digits ∧ Overlong digits (Source.render digits options e) := by
  have accepted := built.sound.accepted
  have admitted := accepted node inside
  obtain ⟨_, _, kept⟩ :=
    (scene.resolve_resolves accepted scene.host.limits.nesting admitted socket ⟨.fresh options, [], start⟩).kept e ok
  have typed : (scene.resolveFresh options node socket start).2.pass.record.Typed options :=
    resolve_typed valid accepted scene.host.limits.nesting admitted socket rfl (Record.typed_empty options)
  obtain ⟨types, _, entries⟩ := typed
  exact (entries _ kept).render valid

variable (conforms : scene.catalog.Conforms) (accepts : scene.host.Accepts)

include conforms accepts

theorem resolveFresh_obstructed (inside : node ∈ scene.graph.nodes) {output : Option String}
    (declared : node.output socket = .ok output) {start : σ} {cause : Error}
    (failed : (scene.resolveFresh options node socket start).1 = .error cause) :
    scene.Obstructed options node cause :=
  resolve_obstructed built.sound conforms valid accepts scene.host.limits.nesting node inside socket output declared _
    (scene.ready_fresh options start) (by simp [Pass.fresh, Pass.state]) cause failed

theorem resolveFresh_raises (inside : node ∈ scene.graph.nodes) {start : σ} {cause : Error}
    (failed : (scene.resolveFresh options node socket start).1 = .error cause) (name : String) (target : Option String) :
    (∃ failure, cause.atRoot name target = .failure failure) ∨
      ∃ limit, scene.host.limits.digits = some limit ∧ cause = .overlong limit ∧
        ¬options.Fits scene.host.limits.digits := by
  cases declared : node.output socket with
  | error failure =>
    rcases resolveFresh_undeclared declared start with nested | undeclared
    · cases failed.symm.trans nested
      exact .inl ⟨_, rfl⟩
    · cases failed.symm.trans undeclared
      exact .inl ⟨_, rfl⟩
  | ok output =>
    cases resolveFresh_obstructed built valid conforms accepts inside declared failed with
    | nesting => exact .inl ⟨_, rfl⟩
    | cycle => exact .inl ⟨_, rfl⟩
    | gap => exact .inl ⟨_, rfl⟩
    | overlong _ _ bound beyond => exact .inr ⟨_, bound, rfl, beyond⟩

theorem compile_ends (found : scene.graph.rootNode root = .ok node) {world : σ}
    (shallow : Shallow ((scene.compile options root socket).outcome world).1) :
    scene.Ends options node socket ((scene.compile options root socket).outcome world).1 := by
  have inside := Graph.mem_of_rootNode found
  obtain ⟨start, _, failed, done⟩ := scene.compile_cases options found socket world
  cases declared : node.output socket with
  | error cause =>
    rcases resolveFresh_undeclared declared start with nested | undeclared
    · exact absurd (failed .nesting nested) (shallow _ _)
    · rw [failed (.failure cause) undeclared]
      exact .undeclared (by simp [declared]) (output_family declared)
  | ok output =>
    cases resolved : (scene.resolveFresh options node socket start).1 with
    | ok e =>
      have clear := (resolve_clear built.sound conforms scene.host.limits.nesting inside socket (by simp [Pass.fresh])
        resolved).2
      rw [done e resolved]
      rcases resolveFresh_render built valid inside resolved scene.host.limits.digits with
        ⟨fits, source, rendered⟩ | ⟨beyond, limit, bound, stopped⟩
      · rw [rendered]
        exact .done ⟨output, declared⟩ clear fits rfl rfl
      · rw [stopped]
        exact .overlong ⟨output, declared⟩ clear bound beyond
    | error cause =>
      have outcome := failed cause resolved
      rw [outcome]
      cases resolveFresh_obstructed built valid conforms accepts inside declared resolved with
      | nesting => exact absurd outcome (shallow _ _)
      | cycle cyclic => exact .cycle ⟨output, declared⟩ rfl cyclic
      | gap gap => exact .gap ⟨output, declared⟩ rfl gap
      | overlong _ clear bound beyond => exact .overlong ⟨output, declared⟩ clear bound beyond

theorem compile_shallow (found : scene.graph.rootNode root = .ok node) (socket : Option String) (world : σ)
    (deep : scene.graph.origins.length + 2 ≤ scene.host.limits.nesting) :
    Shallow ((scene.compile options root socket).outcome world).1 := by
  intro name target nested
  have inside := Graph.mem_of_rootNode found
  obtain ⟨start, _, failed, done⟩ := scene.compile_cases options found socket world
  cases resolved : (scene.resolveFresh options node socket start).1 with
  | ok e =>
    rw [done e resolved] at nested
    rcases resolveFresh_render built valid inside resolved scene.host.limits.digits with
      ⟨_, source, rendered⟩ | ⟨_, limit, _, stopped⟩
    · rw [rendered] at nested
      cases nested
    · rw [stopped] at nested
      cases nested
  | error cause =>
    rw [failed cause resolved] at nested
    cases declared : node.output socket with
    | error failure =>
      rcases resolveFresh_undeclared declared start with deeper | undeclared
      · exact resolve_unnested accepts node socket options deep start deeper
      · cases resolved.symm.trans undeclared
        have family := output_family declared
        cases nested
        cases family
    | ok output =>
      cases resolveFresh_obstructed built valid conforms accepts inside declared resolved with
      | nesting => exact resolve_unnested accepts node socket options deep start resolved
      | _ => cases nested

end Compile

end Scene

end ShaderGraph
