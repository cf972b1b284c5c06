import ShaderGraph.Proofs.Evaluation
import ShaderGraph.Proofs.Obstruction
import ShaderGraph.Proofs.Raising

namespace ShaderGraph

variable {σ α : Type}

structure Step.Unnested (step : Step σ α) : Prop where
  outcome : ∀ state, (step.outcome state).1 ≠ .error .nesting

theorem Step.Raises.unnested {step : Step σ α} {errors : Error → Prop} (raises : step.Raises errors)
    (other : ¬errors .nesting) : step.Unnested :=
  ⟨fun state nested => other (raises.outcome state .nesting nested)⟩

def Control.Unnested : Control → Prop
  | .close _ outcome | .answer outcome => outcome ≠ .error .nesting
  | .ask _ _ | .gather _ _ => True

namespace Scene

variable {scene : Scene σ} {options : Options} {config later : Config σ} {node : Node} {asked : Option String}

theorem reuse_unnested (scene : Scene σ) (frame : Frame) : (scene.reuse frame).Unnested :=
  (scene.reuse_raises frame).unnested (by simp)

theorem conclusion_unnested (accepts : scene.host.Accepts) (job : Job) : (scene.conclusion job).Unnested := by
  apply (scene.conclusion_raises job).unnested
  intro nested
  rcases nested with rule | ⟨_, text | ⟨emission, world, raised⟩⟩
  · cases rule
  · cases text
  · obtain ⟨later, delivered⟩ := accepts emission world
    rw [delivered] at raised
    cases raised

theorem request_unnested (waiting : List Waiting) (run : Run σ) :
    (scene.request none node asked waiting run).control.Unnested := by
  have room : full none waiting.length = false := rfl
  unfold request
  rw [room, if_neg Bool.false_ne_true]
  cases node.output asked with
  | error cause => simp [Control.Unnested]
  | ok socket =>
    simp only
    split
    · exact (scene.reuse_unnested _).outcome run
    · unfold Frame.met
      split <;> simp [Control.Unnested]
    · trivial

theorem take_unnested (job : Job) (input : InputSocket) (left : List InputSocket) (waiting : List Waiting) (run : Run σ) :
    (scene.take job input left waiting run).control.Unnested := by
  unfold take
  split
  · split <;> trivial
  · split
    · simp [Control.Unnested]
    · trivial

theorem next_unnested (accepts : scene.host.Accepts) (stepped : scene.next none config = some later)
    (before : config.control.Unnested) : later.control.Unnested := by
  obtain ⟨control, waiting, run⟩ := config
  cases control with
  | ask node asked =>
    cases stepped
    exact request_unnested waiting run
  | gather job left =>
    cases left with
    | nil =>
      cases stepped
      exact (conclusion_unnested accepts job).outcome run
    | cons input left =>
      cases stepped
      exact take_unnested job input left waiting run
  | close job outcome =>
    cases stepped
    exact before
  | answer outcome =>
    cases waiting with
    | nil => cases outcome <;> cases stepped
    | cons first waiting =>
      cases outcome with
      | ok e =>
        cases stepped
        trivial
      | error cause =>
        cases stepped
        exact before

theorem steps_unnested (accepts : scene.host.Accepts) (steps : scene.Steps none config later)
    (before : config.control.Unnested) : later.control.Unnested := by
  induction steps with
  | refl => exact before
  | tail _ stepped ih => exact next_unnested accepts stepped ih

/-- A resolution in a fresh pass that has room for all origins of links is not nested too deeply. -/
theorem resolve_unnested (accepts : scene.host.Accepts) (node : Node) (asked : Option String) (options : Options)
    {depth : Nat} (deep : scene.graph.origins.length + 2 ≤ depth) (world : σ) :
    ((scene.resolve depth node asked).outcome ⟨.fresh options, [], world⟩).1 ≠ .error .nesting := by
  have begun : scene.Sits (fun _ => True) [] ⟨.ask node asked, [], ⟨.fresh options, [], world⟩⟩ :=
    sits_fresh node asked trivial options world
  have steps := scene.resolve_steps depth node asked [] ⟨.fresh options, [], world⟩
  simp only [List.length_nil, Nat.zero_add] at steps
  exact steps_unnested accepts (begun.steps_unlimited deep steps) trivial

theorem resolve_succeeds (sound : scene.graph.Sound) (conforms : scene.catalog.Conforms) (valid : options.Valid)
    (accepts : scene.host.Accepts) (inside : node ∈ scene.graph.nodes) {socket : Option String}
    (declared : node.output asked = .ok socket) (clear : scene.graph.Clear scene.catalog node.id)
    (shown : node.kind = .print → options.Fits scene.host.limits.digits) {depth : Nat}
    (deep : scene.graph.origins.length + 2 ≤ depth) (world : σ) :
    ∃ e, ((scene.resolve depth node asked).outcome ⟨.fresh options, [], world⟩).1 = .ok e := by
  cases outcome : ((scene.resolve depth node asked).outcome ⟨.fresh options, [], world⟩).1 with
  | ok e => exact ⟨e, rfl⟩
  | error cause =>
    exfalso
    have obstructed := resolve_obstructed sound conforms valid accepts depth node inside asked socket declared _
      (scene.ready_fresh options world) (by simp [Pass.fresh, Pass.state]) cause outcome
    cases obstructed with
    | nesting => exact resolve_unnested accepts node asked options deep world outcome
    | cycle cyclic => exact clear.not_cyclic cyclic
    | gap gap => exact clear.2 gap
    | overlong print _ _ beyond => exact beyond (shown print)

end Scene

end ShaderGraph
