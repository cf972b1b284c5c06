import ShaderGraph.Proofs.Graph.Upstream
import ShaderGraph.Proofs.Progress
import ShaderGraph.Proofs.SideBySide

namespace ShaderGraph

variable {σ τ α : Type}

/-- Two runs with the same pass and the same stack. The relation between the states around the pass may depend on what
    was emitted. -/
structure Tandem (relation : List Emission → σ → τ → Prop) (run : Run σ) (twin : Run τ) : Prop where
  pass : twin.pass = run.pass
  stack : twin.stack = run.stack
  world : relation run.pass.emissions run.world twin.world

namespace Tandem

variable {relation : List Emission → σ → τ → Prop} {run : Run σ} {twin : Run τ}

theorem enter (tandem : Tandem relation run twin) (frame : Frame) :
    Tandem relation (run.enter frame) (twin.enter frame) := by
  constructor
  · simp only [Run.enter, tandem.pass]
  · simp only [Run.enter, tandem.stack]
  · exact tandem.world

theorem leave (tandem : Tandem relation run twin) (frame : Frame) (outcome : Except Error Expression) :
    Tandem relation (run.leave frame outcome) (twin.leave frame outcome) := by
  constructor
  · simp only [Run.leave, tandem.pass]
  · simp only [Run.leave, tandem.stack]
  · exact (run.pass.emissions_finish frame.key outcome).symm ▸ tandem.world

end Tandem

def Host.LogAlike (relation : List Emission → σ → τ → Prop) (host : Host σ) (twin : Host τ) : Prop :=
  ∀ record emissions world twinWorld, relation emissions world twinWorld →
    relation emissions (host.log record world) (twin.log record twinWorld)

structure Host.DeliverAlike (relation : List Emission → σ → τ → Prop) (host : Host σ) (twin : Host τ) : Prop where
  digits : twin.limits.digits = host.limits.digits
  deliver : ∀ emission emissions world twinWorld, relation emissions world twinWorld →
    Agree (relation (emissions ++ [emission])) ((host.deliver emission).outcome world)
      ((twin.deliver emission).outcome twinWorld)

section Parts

variable {relation : List Emission → σ → τ → Prop} {run : Run σ} {twinRun : Run τ}

theorem Resolving.outside_agree {action : Step σ α} {twinAction : Step τ α} (tandem : Tandem relation run twinRun)
    (agree : Agree (relation run.pass.emissions) (action.outcome run.world) (twinAction.outcome twinRun.world)) :
    Agree (Tandem relation) ((outside action).outcome run) ((outside twinAction).outcome twinRun) := by
  rw [outcome_outside, outcome_outside]
  exact .intro agree.outcome ⟨tandem.pass, tandem.stack, agree.state⟩

theorem Resolving.naming_agree (action : Naming α) (tandem : Tandem relation run twinRun) :
    Agree (Tandem relation) ((naming action).outcome run) ((naming action).outcome twinRun) := by
  rw [outcome_naming, outcome_naming, tandem.pass]
  exact .intro rfl ⟨by simp only [Run.named, tandem.pass], tandem.stack, tandem.world⟩

namespace Host

variable {host : Host σ} {twin : Host τ}

theorem write_agree (logs : LogAlike relation host twin) (level : Int) (message : String)
    (tandem : Tandem relation run twinRun) :
    Agree (Tandem relation) ((Resolving.outside (host.write level message)).outcome run)
      ((Resolving.outside (twin.write level message)).outcome twinRun) :=
  Resolving.outside_agree tandem (.intro rfl (logs _ _ _ _ tandem.world))

theorem announce_agree (logs : LogAlike relation host twin) (delivers : DeliverAlike relation host twin) (name : String)
    (e : Expression) (tandem : Tandem relation run twinRun) :
    Agree (Tandem relation) ((host.announce name e).outcome run) ((twin.announce name e).outcome twinRun) := by
  unfold announce
  rw [Step.outcome_bind_ok (Step.outcome_get run), Step.outcome_bind_ok (Step.outcome_get twinRun), tandem.pass,
    delivers.digits]
  apply (Agree.ofExcept id _ tandem).bind
  intro source run twinRun tandem
  apply (write_agree logs _ _ tandem).bind
  intro _ run twinRun tandem
  unfold emit Resolving.onPass
  rw [Step.outcome_bind_ok (Step.outcome_modify ..), Step.outcome_bind_ok (Step.outcome_modify ..),
    Resolving.outcome_outside, Resolving.outcome_outside]
  have told := delivers.deliver ⟨name, source⟩ _ _ _ tandem.world
  exact Agree.intro told.outcome ⟨by simp only [tandem.pass], tandem.stack, told.state⟩

theorem apply_agree (logs : LogAlike relation host twin) {node : Node}
    (delivers : node.kind = .print → DeliverAlike relation host twin) (inputs : Inputs) (output : Option String)
    (tandem : Tandem relation run twinRun) :
    Agree (Tandem relation) ((host.apply node inputs output).outcome run)
      ((twin.apply node inputs output).outcome twinRun) := by
  unfold apply
  rw [Step.outcome_bind_ok (Step.outcome_get run), Step.outcome_bind_ok (Step.outcome_get twinRun), tandem.pass]
  apply (Resolving.naming_agree _ tandem).bind
  intro e run twinRun tandem
  have announced : Agree (Tandem relation) ((host.announceFrom node e).outcome run)
      ((twin.announceFrom node e).outcome twinRun) := by
    unfold announceFrom
    by_cases print : node.kind = .print
    · rw [if_pos print, if_pos print]
      exact announce_agree logs (delivers print) node.name e tandem
    · rw [if_neg print, if_neg print]
      exact Agree.intro rfl tandem
  apply announced.bind
  intro _ run twinRun tandem
  exact Agree.intro rfl tandem

end Host

end Parts

namespace Scene

variable {relation : List Emission → σ → τ → Prop} {scene : Scene σ} {other : Scene τ}

section Step

variable (sound : scene.graph.Sound) (graph : other.graph = scene.graph) (catalog : other.catalog = scene.catalog)
  (logs : Host.LogAlike relation scene.host other.host)
  {recur : Node → Option String → Resolving σ Expression} {twinRecur : Node → Option String → Resolving τ Expression}
  (resolves : ∀ node : Node, node.kind ≠ .print → ∀ asked run twinRun, Tandem relation run twinRun →
    Agree (Tandem relation) ((recur node asked).outcome run) ((twinRecur node asked).outcome twinRun))

include sound graph resolves

theorem input_agree (node : Node) (socket : InputSocket) {run : Run σ} {twinRun : Run τ}
    (tandem : Tandem relation run twinRun) :
    Agree (Tandem relation) ((scene.input recur node socket).outcome run)
      ((other.input twinRecur node socket).outcome twinRun) := by
  unfold input
  rw [graph]
  cases joined : scene.graph.inputLink? node.id socket.name with
  | none =>
    by_cases required : socket.required = true
    · simp only [required, if_true]
      exact Agree.intro rfl tandem
    · simp only [required]
      exact Agree.intro rfl tandem
  | some link =>
    obtain ⟨source, _, found, _, declared⟩ := sound.source joined
    simp only [found]
    exact resolves source (NodeKind.not_print_of_hasOutput declared) _ run twinRun tandem

include catalog

theorem inputs_agree (node : Node) {run : Run σ} {twinRun : Run τ} (tandem : Tandem relation run twinRun) :
    Agree (Tandem relation) ((scene.inputs recur node).outcome run)
      ((other.inputs twinRecur node).outcome twinRun) := by
  unfold inputs
  rw [catalog]
  refine Paired.mapM _ (fun socket _ run twinRun tandem => ?_) tandem
  apply (input_agree sound graph resolves node socket tandem).bind
  intro e run twinRun tandem
  exact Agree.intro rfl tandem

include logs

theorem work_agree {node : Node} (delivers : node.kind = .print → Host.DeliverAlike relation scene.host other.host)
    (socket : Option String) {run : Run σ} {twinRun : Run τ} (tandem : Tandem relation run twinRun) :
    Agree (Tandem relation) ((scene.work recur node socket).outcome run)
      ((other.work twinRecur node socket).outcome twinRun) := by
  unfold work
  apply (inputs_agree sound graph catalog resolves node tandem).bind
  intro inputs run twinRun tandem
  apply (Host.write_agree logs _ _ tandem).bind
  intro _ run twinRun tandem
  exact Host.apply_agree logs delivers inputs socket tandem

theorem step_agree {node : Node} (delivers : node.kind = .print → Host.DeliverAlike relation scene.host other.host)
    (asked : Option String) {run : Run σ} {twinRun : Run τ} (tandem : Tandem relation run twinRun) :
    Agree (Tandem relation) ((scene.step recur node asked).outcome run)
      ((other.step twinRecur node asked).outcome twinRun) := by
  unfold step
  apply (Agree.ofExcept _ _ tandem).bind
  intro socket run twinRun tandem
  rw [Step.outcome_bind_ok (Step.outcome_get run), Step.outcome_bind_ok (Step.outcome_get twinRun)]
  simp only [tandem.pass, tandem.stack]
  cases run.pass.state (Frame.key ⟨node.id, node.name, socket⟩) with
  | resolved =>
    unfold reuse
    apply (Host.write_agree logs _ _ tandem).bind
    intro _ run twinRun tandem
    rw [Step.outcome_bind_ok (Step.outcome_get run), Step.outcome_bind_ok (Step.outcome_get twinRun), tandem.pass]
    cases run.pass.result? (Frame.key ⟨node.id, node.name, socket⟩) <;> exact Agree.intro rfl tandem
  | inProgress => exact Agree.intro rfl tandem
  | unvisited =>
    unfold visit
    rw [Step.outcome_bind_ok (Step.outcome_modify ..), Step.outcome_bind_ok (Step.outcome_modify ..),
      Step.outcome_bind_ok (Step.outcome_attempt ..), Step.outcome_bind_ok (Step.outcome_attempt ..),
      Step.outcome_bind_ok (Step.outcome_modify ..), Step.outcome_bind_ok (Step.outcome_modify ..)]
    have worked := work_agree sound graph catalog logs resolves delivers socket
      (tandem.enter ⟨node.id, node.name, socket⟩)
    rw [worked.outcome]
    exact Agree.ofExcept id _ (worked.state.leave _ _)

end Step

theorem resolve_agree (sound : scene.graph.Sound) (graph : other.graph = scene.graph)
    (catalog : other.catalog = scene.catalog) (logs : Host.LogAlike relation scene.host other.host) (depth : Nat)
    {node : Node} (delivers : node.kind = .print → Host.DeliverAlike relation scene.host other.host)
    (asked : Option String) {run : Run σ} {twinRun : Run τ} (tandem : Tandem relation run twinRun) :
    Agree (Tandem relation) ((scene.resolve depth node asked).outcome run)
      ((other.resolve depth node asked).outcome twinRun) := by
  induction depth generalizing node asked run twinRun with
  | zero => exact Agree.intro rfl tandem
  | succ depth ih =>
    refine step_agree sound graph catalog logs (fun node other asked run twinRun tandem => ?_) delivers asked tandem
    exact ih (fun print => absurd print other) asked tandem

end Scene

end ShaderGraph
