import ShaderGraph.Proofs.CompileOutcome
import ShaderGraph.Proofs.Lanes

namespace ShaderGraph

namespace Shading

variable {α : Type} [Zero α] [One α] {reading : Interpretation α}

/-- The lanes of a term. Textures and samplers are names of the module: a term that samples under a name of the body has
    no lanes. -/
def Interpretation.evaluate (reading : Interpretation α) : Evaluator (List α) := fun scope term =>
  if term.resources.any (fun name => (scope name).isSome) then none else term.value? reading.meaning scope

theorem Interpretation.evaluate_eq {scope : String → Option (List α)} {term : Term}
    (free : ∀ name ∈ term.resources, scope name = none) :
    reading.evaluate scope term = term.value? reading.meaning scope := by
  have unhidden : term.resources.any (fun name => (scope name).isSome) = false := by
    rw [List.any_eq_false]
    intro name member
    simp [free name member]
  simp [evaluate, unhidden]

theorem execute_evaluate {scope after : Scope (List α)} {body : List Binding} {names : List String}
    (inScope : ∀ name, (scope.lookup name).isSome → name ∈ names)
    (written : ∀ binding ∈ body, ∃ term, binding.Reads term) (free : capturedIn names (texts body) = [])
    (ran : execute (Term.value? reading.meaning) scope (texts body) = some after) :
    execute reading.evaluate scope (texts body) = some after := by
  induction body generalizing scope names with
  | nil => exact ran
  | cons binding body ih =>
    obtain ⟨term, reads⟩ := written binding List.mem_cons_self
    rw [capturedIn_cons reads, List.append_eq_nil_iff, List.filter_eq_nil_iff] at free
    have unhidden : ∀ name ∈ term.resources, scope.lookup name = none := by
      intro name member
      apply Option.not_isSome_iff_eq_none.mp
      intro bound
      exact free.1 name member (List.contains_iff_mem.mpr (inScope name bound))
    rw [execute_cons reads] at ran ⊢
    rw [Interpretation.evaluate_eq unhidden]
    split at ran
    · cases ran
    · obtain ⟨x, found, rest⟩ := Option.bind_eq_some_iff.mp ran
      rename_i unbound
      rw [if_neg unbound, found]
      refine ih ?_ (fun other member => written other (List.mem_cons_of_mem _ member)) free.2 rest
      intro name bound
      by_cases same : name = binding.name
      · rw [same]
        exact List.mem_cons_self
      · rw [List.lookup_cons, beq_eq_false_iff_ne.mpr same] at bound
        exact List.mem_cons_of_mem _ (inScope name bound)

end Shading

open Shading

variable {α : Type} [Zero α] [One α] {reading : Interpretation α}

/-- The statements of an expression run, and its result has these lanes; a result without a name is zero. The text
    returned for it is a colour of the first three lanes and the alpha of the options. -/
structure Expression.Computes (e : Expression) (reading : Interpretation α) (options : Options) (lanes : List α)
    (values : Scope (List α)) : Prop where
  ran : execute reading.evaluate reading.mesh e.statements = some values
  named : e.var ≠ "" → values.lookup e.var = some lanes
  unnamed : e.var = "" → lanes = .replicate e.shape.lanes 0
  length : lanes.length = e.shape.lanes
  returned : ∃ code term alpha, e.final .vec4 options.alpha = .ok code ∧ Term.read? code.render = some term ∧
    options.alpha.toFinite = .ok alpha ∧
    reading.evaluate (values.lookup ·) term = some ((padded 3 lanes).take 3 ++ [reading.numeral alpha.plain])

theorem Expression.color_means {e : Expression} {values : Scope (List α)} {lanes : List α}
    (means : e.Means reading values lanes) (alpha : Binary64) :
    reading.evaluate (values.lookup ·) (e.color alpha).term =
      some ((padded 3 lanes).take 3 ++ [reading.numeral alpha.plain]) := by
  rw [Interpretation.evaluate_eq (by simp [color, Code.term, Term.resources])]
  have front := Shape.convert_zero_means reading .vec3 means.value means.length
  have literal : (Code.literal (.plain alpha)).term.value? reading.meaning (values.lookup ·) =
    some [reading.numeral alpha.plain] := rfl
  have three : 3 ≤ (padded 3 lanes).length := by
    simp only [padded, List.length_append, List.length_replicate]
    omega
  rw [color, Code.term, Term.value?, front, literal]
  simp [Interpretation.meaning, Shape.lanes, three]

theorem Expression.color_proper {e : Expression} (proper : e.operand.Proper) {alpha : Binary64}
    (finite : alpha.IsFinite) : (e.color alpha).Proper :=
  ⟨by decide, e.shape.convert_proper _ proper operand_primary trivial, finite⟩

theorem Expression.Means.computes {options : Options} (valid : options.Valid) {names : NameTable}
    {types : Scope Shape} (table : names.Typed options types) {e : Expression} (typed : e.Typed names types)
    {values : Scope (List α)} (runs : names.Means reading values) {lanes : List α} (means : e.Means reading values lanes)
    (uncaptured : e.captured = []) : ∃ result, e.Computes reading options lanes result := by
  have proper := table.operand_proper typed
  obtain ⟨⟨body, backed⟩, _⟩ := typed
  obtain ⟨result, ran, executed, same⟩ := backed.execute (value?_lawful reading.meaning) runs
    (fun name => reading.mesh_isSome.mpr)
  have value := same.trans means.value
  obtain ⟨alpha, finite⟩ := valid.alpha
  refine ⟨result, ?_, ?_, ?_, means.length, e.color alpha, (e.color alpha).term, alpha, ?_, ?_, finite, ?_⟩
  · rw [Expression.captured, backed.statements] at uncaptured
    rw [backed.statements] at ran ⊢
    exact execute_evaluate (fun name => reading.mesh_isSome.mp) backed.ordered.written uncaptured ran
  · intro bound
    rw [operand, if_neg bound] at value
    exact value
  · intro unbound
    rw [operand, if_pos unbound, Shape.fill_zero_means] at value
    exact (Option.some.inj value).symm
  · simp [final, (Value.toFinite_ok finite).2, Except.map]
  · exact (color_proper proper (Value.toFinite_ok finite).1).read_render
  · exact color_means ⟨value, means.length⟩ alpha

namespace Scene

variable {σ : Type} {scene : Scene σ} {options : Options}

theorem resolveFresh_means (sound : scene.graph.Sound) (conforms : scene.catalog.Conforms) (valid : options.Valid)
    (reading : Interpretation α) {node : Node} (inside : node ∈ scene.graph.nodes) {asked socket : Option String}
    (declared : node.output asked = .ok socket) {world : σ} {e : Expression}
    (ok : (scene.resolveFresh options node asked world).1 = .ok e) :
    ∃ names types values lanes, names.Typed options types ∧ e.Typed names types ∧ names.Means reading values ∧
      e.Means reading values lanes ∧ scene.graph.Denotes reading options node.id socket lanes := by
  have resolves : scene.Resolves (· ∈ scene.graph.nodes) node asked _ (scene.resolveFresh options node asked world) :=
    scene.resolve_resolves (fun _ member => member) scene.host.limits.nesting inside asked ⟨.fresh options, [], world⟩
  obtain ⟨output, sameOutput, kept⟩ := resolves.kept e ok
  rw [declared] at sameOutput
  cases sameOutput
  have both := resolves.advances.progress.preserves
    (fun record => record.Typed options ∧ record.Means reading scene.graph options)
    (fun settles before => ⟨settles_typed valid (settles.imp sound.accepted) before.1,
      settles_means sound conforms valid settles before.1 before.2⟩)
    ⟨Record.typed_empty options, Record.means_empty reading scene.graph options⟩
  obtain ⟨⟨types, table, typed⟩, values, runs, entries⟩ := both
  obtain ⟨lanes, means, denotes⟩ := entries _ kept
  exact ⟨_, types, values, lanes, table, typed _ kept, runs, means, denotes⟩

end Scene

/-- An output without a cycle upstream and within the limit of nesting is compiled, and what its statements compute under
    a reading is the meaning of the output under this reading. It is within the limit if there is room for all outputs
    that links start at. A Print node whose options cannot be written does not get as far. -/
theorem Scene.compiled_lanes {σ : Type} {graph : Graph} (built : graph.Built) {host : Host σ} (accepts : host.Accepts)
    {options : Options} (valid : options.Valid) (reading : Interpretation α) {node : Node} (inside : node ∈ graph.nodes)
    {asked socket : Option String} (declared : node.output asked = .ok socket) (acyclic : ¬graph.CyclicAbove node.id)
    (world : σ) :
    (graph.origins.length + 2 ≤ host.limits.nesting →
      (Scene.resolveFresh ⟨.shipped, graph, host⟩ options node asked world).1 ≠ .error .nesting) ∧
    ((Scene.resolveFresh ⟨.shipped, graph, host⟩ options node asked world).1 ≠ .error .nesting →
      (∃ e lanes, (Scene.resolveFresh ⟨.shipped, graph, host⟩ options node asked world).1 = .ok e ∧
        (∀ other, graph.Denotes reading options node.id socket other ↔ other = lanes) ∧
        (e.captured = [] → ∃ values, e.Computes reading options lanes values)) ∨
      node.kind = .print ∧ ¬options.Fits host.limits.digits ∧
        Overlong host.limits.digits (Scene.resolveFresh ⟨.shipped, graph, host⟩ options node asked world).1) := by
  let scene : Scene σ := ⟨.shipped, graph, host⟩
  have sound := built.sound
  have conforms : scene.catalog.Conforms := Catalog.shipped_conforms
  refine ⟨fun deep => resolve_unnested accepts node asked options deep world, ?_⟩
  intro shallow
  cases resolved : (scene.resolveFresh options node asked world).1 with
  | error cause =>
    have obstructed : scene.Obstructed options node cause :=
      resolveFresh_obstructed built valid conforms accepts inside declared resolved
    cases obstructed with
    | nesting => exact absurd resolved shallow
    | cycle cyclic => exact absurd cyclic acyclic
    | gap gap => exact absurd gap (shipped_no_gap graph node.id)
    | overlong print _ bound beyond => exact .inr ⟨print, beyond, _, bound, rfl⟩
  | ok e =>
    obtain ⟨names, types, values, lanes, table, typed, runs, means, denotes⟩ :=
      resolveFresh_means sound conforms valid reading inside declared resolved
    refine .inl ⟨e, lanes, rfl, fun other => ⟨denotes.unique sound, ?_⟩, means.computes valid table typed runs⟩
    rintro rfl
    exact denotes

structure Shading.Whole where
  value : Int
deriving DecidableEq

instance : Zero Whole := ⟨⟨0⟩⟩

instance : One Whole := ⟨⟨1⟩⟩

def Shading.Interpretation.integers : Interpretation Whole where
  numeral text := if text ∈ ["1.0", "1.00000"] then 1 else 0
  uv i := ⟨i.val + 5⟩
  normal i := ⟨i.val⟩
  position i := ⟨i.val⟩
  sample _ _ u v i := ⟨u.value + v.value + i.val⟩
  clamp x low high := if x.value < low.value then low else if high.value < x.value then high else x
  numeral_zero := by decide
  numeral_zero_fixed := by decide
  numeral_one := by decide
  numeral_one_fixed := by decide

def Graph.sampled : Graph where
  key := 0
  name := standardName
  nodes := [⟨⟨0, 0⟩, .texture, "paint", []⟩, ⟨⟨0, 1⟩, .preview, "view", []⟩]
  links := [⟨⟨0, 0⟩, "color", ⟨0, 1⟩, "input"⟩]
  issued := 2

theorem Graph.sampled_built : sampled.Built := by
  have first := (Built.empty 0 standardName).add .texture "paint" rfl (by decide) (by decide)
  have second := first.add .preview "view" rfl (by decide) (by decide)
  exact second.join ⟨⟨0, 0⟩, .texture, "paint", []⟩ "color" ⟨⟨0, 1⟩, .preview, "view", []⟩ "input" rfl

/-- The texture has the name that its own colour is given later. -/
theorem Scene.compiled_lanes_sampled :
    let view : Node := ⟨⟨0, 1⟩, .preview, "view", []⟩
    let scene : Scene (List Emission) := ⟨.shipped, .sampled, .recorder .standard⟩
    let options : Options := { Options.standard with textureName := .text "texture_color" }
    scene.graph.Built ∧ scene.host.Accepts ∧ options.Valid ∧ ¬scene.graph.CyclicAbove view.id ∧
      ∃ e values, (scene.resolveFresh options view none []).1 = .ok e ∧
        boundNames e.statements = ["texture_color"] ∧ e.captured = [] ∧
        (∀ other, scene.graph.Denotes Interpretation.integers options view.id (some "output") other ↔
          other = [⟨11⟩, ⟨12⟩, ⟨13⟩, ⟨14⟩]) ∧
        e.Computes Interpretation.integers options [⟨11⟩, ⟨12⟩, ⟨13⟩, ⟨14⟩] values := by
  intro view scene options
  have accepts : scene.host.Accepts := Host.recorder_accepts .standard
  have valid : options.Valid :=
    ⟨rfl, rfl, rfl, Options.standard_valid.bindings, Options.standard_valid.alpha, by decide +kernel, by decide +kernel,
      by decide +kernel⟩
  have inside : view ∈ Graph.sampled.nodes := by simp [view, Graph.sampled]
  have declared : view.output none = .ok (some "output") := rfl
  have lanes : (scene.resolveFresh options view none []).1.toOption.bind (fun e =>
      (execute Interpretation.integers.evaluate Interpretation.integers.mesh e.statements).bind (·.lookup e.var)) =
      some [⟨11⟩, ⟨12⟩, ⟨13⟩, ⟨14⟩] := by decide +kernel
  have free : (scene.resolveFresh options view none []).1.toOption.map (fun e =>
      (e.var != "", boundNames e.statements, e.captured)) = some (true, ["texture_color"], []) := by decide +kernel
  cases resolved : (scene.resolveFresh options view none []).1 with
  | error cause =>
    rw [resolved] at lanes
    cases lanes
  | ok e =>
    rw [resolved] at lanes free
    simp only [Except.toOption, Option.bind_some] at lanes
    simp only [Except.toOption, Option.map_some, Option.some.injEq, Prod.mk.injEq, bne_iff_ne] at free
    obtain ⟨named, bound, uncaptured⟩ := free
    have acyclic : ¬Graph.sampled.CyclicAbove view.id :=
      (resolve_clear Graph.sampled_built.sound Catalog.shipped_conforms scene.host.limits.nesting inside none
        (by simp [Pass.fresh]) resolved).2.not_cyclic
    have room : Graph.sampled.origins.length + 2 ≤ scene.host.limits.nesting := by decide
    obtain ⟨shallow, compiled⟩ :=
      compiled_lanes Graph.sampled_built accepts valid Interpretation.integers inside declared acyclic []
    rcases compiled (shallow room) with ⟨own, result, ok, denotes, computes⟩ | ⟨print, _⟩
    · cases resolved.symm.trans ok
      obtain ⟨values, run⟩ := computes uncaptured
      rw [run.ran, Option.bind_some, run.named named] at lanes
      cases lanes
      exact ⟨Graph.sampled_built, accepts, valid, acyclic, e, values, rfl, bound, uncaptured, denotes, run⟩
    · cases print

end ShaderGraph
