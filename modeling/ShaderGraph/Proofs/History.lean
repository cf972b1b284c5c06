import ShaderGraph.Proofs.Correspondence
import ShaderGraph.Proofs.Nesting

namespace ShaderGraph

open Relation Shading

variable {σ : Type}

/-- A pass over a graph that is left alone, after resolutions of any of its nodes, failed or not, and with anything done
    to the state around the pass. -/
inductive Scene.History (scene : Scene σ) (options : Options) : Run σ → Prop
  | start (world : σ) : scene.History options ⟨.fresh options, [], world⟩
  | resolve {run : Run σ} (history : scene.History options run) (depth : Nat) {node : Node}
      (inside : node ∈ scene.graph.nodes) (asked : Option String) :
      scene.History options ((scene.resolve depth node asked).outcome run).2
  | outside {run : Run σ} (history : scene.History options run) (world : σ) :
      scene.History options { run with world := world }

namespace Scene

variable {scene : Scene σ} {options : Options} {run : Run σ}

namespace History

theorem orderly (history : scene.History options run) :
    ∃ left, Orderly scene.graph (fun node => node ∈ scene.graph.nodes ∨ node ∈ scene.graph.nodes) left [] run ∧
      ∀ key ∈ left, scene.Abandons (fun node => node ∈ scene.graph.nodes ∨ node ∈ scene.graph.nodes) key := by
  induction history with
  | start world => exact ⟨[], .fresh options world, by simp⟩
  | resolve _ depth inside asked ih =>
    obtain ⟨_, orderly, abandoned⟩ := ih
    obtain ⟨left, sits⟩ := (sits_ask _ asked inside orderly abandoned).steps (scene.resolve_steps depth _ asked [] _)
    exact ⟨left, sits.orderly, sits.abandoned⟩
  | outside _ world ih =>
    obtain ⟨left, orderly, abandoned⟩ := ih
    exact ⟨left, orderly.still rfl rfl rfl, abandoned⟩

theorem once (history : scene.History options run) : (run.pass.memo.map Prod.fst).Nodup := by
  obtain ⟨left, orderly, _⟩ := history.orderly
  exact orderly.once

theorem coherent (history : scene.History options run) : run.pass.Coherent := by
  obtain ⟨left, orderly, _⟩ := history.orderly
  exact orderly.coherent

theorem progress (history : scene.History options run) :
    run.pass.options = options ∧ scene.Progress (· ∈ scene.graph.nodes) options ⟨[], .empty⟩ run.pass.record := by
  induction history with
  | start world => exact ⟨rfl, .refl⟩
  | @resolve run _ depth node inside asked ih =>
    have resolves : scene.Resolves (· ∈ scene.graph.nodes) node asked run ((scene.resolve depth node asked).outcome run) :=
      scene.resolve_resolves (fun _ member => member) depth inside asked run
    have later := resolves.advances.progress
    rw [ih.1] at later
    exact ⟨resolves.advances.options.trans ih.1, ih.2.trans later⟩
  | outside _ _ ih => exact ih

theorem accounted (history : scene.History options run) (sound : scene.graph.Sound) (valid : options.Valid) :
    run.pass.record.Accounted scene.graph scene.catalog options :=
  progress_accounted sound valid history.progress.2 history.once

theorem clear (history : scene.History options run) (sound : scene.graph.Sound) (conforms : scene.catalog.Conforms) :
    ∀ entry ∈ run.pass.memo, scene.graph.Clear scene.catalog entry.1.node :=
  history.progress.2.preserves (fun record => ∀ entry ∈ record.memo, scene.graph.Clear scene.catalog entry.1.node)
    (settles_clear sound conforms) (by simp)

theorem shown (history : scene.History options run) (sound : scene.graph.Sound) {node : Node}
    (inside : node ∈ scene.graph.nodes) (print : node.kind = .print) {socket : Option String} {e : Expression}
    (known : (⟨node.id, socket⟩, e) ∈ run.pass.memo) : options.Fits scene.host.limits.digits := by
  have all := history.progress.2.preserves
    (fun record => ∀ entry ∈ record.memo, entry.1.node = node.id → options.Fits scene.host.limits.digits) ?_ (by simp)
  · exact all _ known rfl
  · intro record later settles before entry member id
    cases settles with
    | output admitted declared fed derived shown =>
      rcases List.mem_cons.mp member with rfl | member
      · have same := List.inj_on_of_nodup_map sound.distinct admitted inside id
        obtain ⟨source, rendered⟩ := shown (same ▸ print)
        exact Source.fits_of_render rendered
      · exact before entry member id

end History

theorem resolve_kept (scene : Scene σ) {depth : Nat} {node : Node} (inside : node ∈ scene.graph.nodes)
    {asked socket : Option String} (declared : node.output asked = .ok socket) {e : Expression}
    (ok : ((scene.resolve depth node asked).outcome run).1 = .ok e) :
    (⟨node.id, socket⟩, e) ∈ ((scene.resolve depth node asked).outcome run).2.pass.memo := by
  have resolves : scene.Resolves (· ∈ scene.graph.nodes) node asked run ((scene.resolve depth node asked).outcome run) :=
    scene.resolve_resolves (fun _ member => member) depth inside asked run
  obtain ⟨own, same, member⟩ := resolves.kept e ok
  rw [declared] at same
  cases same
  exact member

/-- Where a resolution succeeds in a pass that others went before, it succeeds in a fresh pass, if there is room for the
    outputs under resolution, and other names for what this one binds turn its result into the first one. -/
theorem history_renames (built : scene.graph.Built) (conforms : scene.catalog.Conforms) (valid : options.Valid)
    (history : scene.History options run) {node : Node} (inside : node ∈ scene.graph.nodes) (asked : Option String)
    (depth : Nat) {used : Expression} (ok : ((scene.resolve depth node asked).outcome run).1 = .ok used) {τ : Type}
    {host : Host τ} (accepts : host.Accepts) (digits : host.limits.digits = scene.host.limits.digits) {room : Nat}
    (deep : scene.graph.origins.length + 2 ≤ room) (world : τ) :
    ∃ fresh names, ((Scene.resolve ⟨scene.catalog, scene.graph, host⟩ room node asked).outcome
        ⟨.fresh options, [], world⟩).1 = .ok fresh ∧ fresh.Renames names ∧ used = fresh.rename names := by
  let other : Scene τ := ⟨scene.catalog, scene.graph, host⟩
  have sound := built.sound
  obtain ⟨⟨socket, declared⟩, clear⟩ := resolve_clear sound conforms depth inside asked (history.clear sound conforms) ok
  have otherSound : other.graph.Sound := sound
  have shown (print : node.kind = .print) : options.Fits other.host.limits.digits :=
    digits.symm ▸ (history.resolve depth inside asked).shown sound inside print (scene.resolve_kept inside declared ok)
  obtain ⟨fresh, resolved⟩ := resolve_succeeds otherSound conforms valid accepts inside declared clear shown deep world
  have start : other.History options ⟨.fresh options, [], world⟩ := .start world
  have left := (start.resolve room inside asked).accounted sound valid
  have right := (history.resolve depth inside asked).accounted sound valid
  have member := other.resolve_kept inside declared resolved
  have variant := Graph.variant_of_mem left right sound member (scene.resolve_kept inside declared ok)
  obtain ⟨types, _, entries⟩ := left.typed
  obtain ⟨⟨body, backed⟩, _⟩ := entries _ member
  obtain ⟨names, renames, same⟩ := variant.renames left right backed
  exact ⟨fresh, names, resolved, renames, same⟩

/-- A lane of the coordinates was resolved before, and a resolution was nested too deeply: the name of the lane that the
    split makes is taken. -/
theorem history_renames_swapped :
    let scene : Scene (List Emission) := ⟨.shipped, .swapped, .recorder .standard⟩
    let view : Node := ⟨⟨0, 3⟩, .preview, "view", []⟩
    let lane := ((scene.resolve 9 ⟨⟨0, 0⟩, .uv, "uv", []⟩ (some "x")).outcome ⟨.fresh .standard, [], []⟩).2
    let run := ((scene.resolve 3 view none).outcome lane).2
    ∃ used fresh names, scene.graph.Built ∧ scene.catalog.Conforms ∧ Options.standard.Valid ∧
      scene.History .standard run ∧ ((scene.resolve 9 view none).outcome run).1 = .ok used ∧
      boundNames used.statements = ["uv_y", "uv_x_1", "vec_0"] ∧ scene.host.Accepts ∧
      scene.graph.origins.length + 2 ≤ 9 ∧
      ((scene.resolve 9 view none).outcome ⟨.fresh .standard, [], []⟩).1 = .ok fresh ∧
      boundNames fresh.statements = ["uv_y", "uv_x", "vec_0"] ∧ fresh.Renames names ∧ used = fresh.rename names := by
  intro scene view lane run
  have inside : view ∈ scene.graph.nodes := by simp [scene, view, Graph.swapped]
  have history : scene.History .standard run :=
    ((History.start []).resolve 9 (by simp [scene, Graph.swapped]) (some "x")).resolve 3 inside none
  have deep : scene.graph.origins.length + 2 ≤ 9 := by decide
  have found : (((scene.resolve 9 view none).outcome run).1.toOption.map fun e => boundNames e.statements) =
      some ["uv_y", "uv_x_1", "vec_0"] := by decide +kernel
  have alone : (((scene.resolve 9 view none).outcome ⟨.fresh .standard, [], []⟩).1.toOption.map fun e =>
      boundNames e.statements) = some ["uv_y", "uv_x", "vec_0"] := by decide +kernel
  cases ok : ((scene.resolve 9 view none).outcome run).1 with
  | error cause =>
    rw [ok] at found
    cases found
  | ok used =>
    obtain ⟨fresh, names, resolved, renames, same⟩ := history_renames Graph.swapped_built Catalog.shipped_conforms
      Options.standard_valid history inside none 9 ok (Host.recorder_accepts .standard) rfl deep []
    rw [ok] at found
    rw [resolved] at alone
    exact ⟨used, fresh, names, Graph.swapped_built, Catalog.shipped_conforms, Options.standard_valid, history, rfl,
      Option.some.inj found, Host.recorder_accepts .standard, deep, resolved, Option.some.inj alone, renames, same⟩

end Scene

end ShaderGraph
