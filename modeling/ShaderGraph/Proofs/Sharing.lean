import Mathlib.Data.Set.Card
import ShaderGraph.Proofs.Evaluation
import ShaderGraph.Proofs.Issuing
import ShaderGraph.Proofs.Obstruction

namespace ShaderGraph

open Shading

variable {σ : Type}

/-- An output needs itself and, with each output, what the links into its node start at. -/
inductive Graph.Needs (graph : Graph) (root : OutputKey) : OutputKey → Prop
  | root : graph.Needs root root
  | source {key : OutputKey} {link : Link} (needed : graph.Needs root key) (linked : link ∈ graph.links)
      (into : link.target = key.node) : graph.Needs root ⟨link.source, some link.output⟩

def Run.Within (needed : OutputKey → Prop) (run : Run σ) : Prop := ∀ entry ∈ run.pass.memo, needed entry.1

namespace Run.Within

variable {needed : OutputKey → Prop} {run later : Run σ}

theorem quiet (within : run.Within needed) (quiet : run.Quiet later) : later.Within needed := by
  unfold Run.Within
  rw [quiet.memo]
  exact within

theorem leave (within : run.Within needed) {frame : Frame} (outcome : Except Error Expression)
    (asked : needed frame.key) : (run.leave frame outcome).Within needed := by
  cases outcome with
  | error cause =>
    unfold Run.Within
    rw [Run.leave, Pass.memo_finish_error]
    exact within
  | ok e =>
    intro entry member
    rcases List.mem_cons.mp member with rfl | member
    · exact asked
    · exact within entry member

end Run.Within

namespace Scene

variable {scene : Scene σ} {options : Options}

section Step

variable {needed : OutputKey → Prop} {recur : Node → Option String → Resolving σ Expression}
  (keeps : ∀ node asked (run : Run σ), (∀ socket, node.output asked = .ok socket → needed ⟨node.id, socket⟩) →
    run.Within needed → ((recur node asked).outcome run).2.Within needed)

include keeps

theorem input_within {node : Node} (socket : InputSocket)
    (sources : ∀ link ∈ scene.graph.links, link.target = node.id → needed ⟨link.source, some link.output⟩) {run : Run σ}
    (within : run.Within needed) : ((scene.input recur node socket).outcome run).2.Within needed := by
  simp only [input]
  cases joined : scene.graph.inputLink? node.id socket.name with
  | none =>
    by_cases required : socket.required = true
    · simpa [required] using within
    · simpa [required] using within
  | some link =>
    cases found : scene.graph.find? link.source with
    | none => simpa [found] using within
    | some source =>
      simp only [found]
      apply keeps source (some link.output) run _ within
      intro output declared
      obtain ⟨rfl, _⟩ := output_some declared
      obtain ⟨linked, into, _⟩ := Graph.mem_of_inputLink? joined
      rw [(Graph.mem_of_find? found).2]
      exact sources link linked into

theorem inputs_within {node : Node} (sockets : List InputSocket)
    (sources : ∀ link ∈ scene.graph.links, link.target = node.id → needed ⟨link.source, some link.output⟩) {run : Run σ}
    (within : run.Within needed) :
    (Step.outcome (sockets.mapM fun socket => do return (socket.name, ← scene.input recur node socket)) run).2.Within
      needed := by
  induction sockets generalizing run with
  | nil => exact within
  | cons socket sockets ih =>
    have head := scene.input_within keeps socket sources within
    simp only [List.mapM_cons, bind_assoc, pure_bind]
    rw [Step.outcome_bind]
    rcases first : (scene.input recur node socket).outcome run with ⟨cause | e, middle⟩
    · rw [first] at head
      exact head
    · rw [first] at head
      have rest := ih head
      simp only at rest ⊢
      rw [Step.outcome_bind]
      rcases second : Step.outcome (sockets.mapM _) middle with ⟨cause | inputs, later⟩
      · rw [second] at rest
        exact rest
      · rw [second] at rest
        exact rest

theorem work_within {node : Node} (socket : Option String)
    (sources : ∀ link ∈ scene.graph.links, link.target = node.id → needed ⟨link.source, some link.output⟩) {run : Run σ}
    (within : run.Within needed) : ((scene.work recur node socket).outcome run).2.Within needed := by
  have gathered := scene.inputs_within keeps (scene.catalog node.kind).inputs sources within
  rcases gather : (scene.inputs recur node).outcome run with ⟨cause | inputs, middle⟩
  · rw [work_failed gather]
    unfold inputs at gather
    rw [gather] at gathered
    exact gathered
  · obtain ⟨noted, quiet, worked⟩ : ∃ noted, middle.Quiet noted ∧ (scene.work recur node socket).outcome run =
        (scene.host.apply node inputs socket).outcome noted := work_gathered gather
    unfold Scene.inputs at gather
    rw [gather] at gathered
    rw [worked]
    have before : noted.Within needed := gathered.quiet quiet
    rcases scene.host.apply_cases node inputs socket noted with ⟨_, _, still⟩ | ⟨result, _, _, still, _⟩
    · exact before.quiet still
    · have named : (noted.named result.2).Within needed := before
      exact named.quiet still

theorem step_within (closed : ∀ key link, needed key → link ∈ scene.graph.links → link.target = key.node →
      needed ⟨link.source, some link.output⟩) {node : Node} {asked : Option String}
    (wanted : ∀ socket, node.output asked = .ok socket → needed ⟨node.id, socket⟩) {run : Run σ}
    (within : run.Within needed) : ((scene.step recur node asked).outcome run).2.Within needed := by
  cases declared : node.output asked with
  | error cause =>
    rw [step_undeclared declared]
    exact within
  | ok socket =>
    have own := wanted socket declared
    cases visited : run.pass.state ⟨node.id, socket⟩ with
    | resolved =>
      cases known : run.pass.result? ⟨node.id, socket⟩ with
      | some e =>
        obtain ⟨later, same, quiet⟩ : ∃ later, (scene.step recur node asked).outcome run = (.ok e, later) ∧
            run.Quiet later := step_known declared visited known
        rw [same]
        exact within.quiet quiet
      | none =>
        obtain ⟨later, same, quiet⟩ : ∃ later, (scene.step recur node asked).outcome run =
            (.error (.unknownLabel (socket.getD "None")), later) ∧ run.Quiet later :=
          step_unknown declared visited known
        rw [same]
        exact within.quiet quiet
    | inProgress =>
      rw [step_active declared visited]
      exact within
    | unvisited =>
      rw [step_visit declared visited]
      have entered : (run.enter ⟨node.id, node.name, socket⟩).Within needed := within
      exact (work_within keeps socket (fun link linked into => closed _ link own linked into) entered).leave _ own

end Step

theorem resolve_within (scene : Scene σ) {needed : OutputKey → Prop}
    (closed : ∀ key link, needed key → link ∈ scene.graph.links → link.target = key.node →
      needed ⟨link.source, some link.output⟩) (depth : Nat) (node : Node) (asked : Option String) (run : Run σ)
    (wanted : ∀ socket, node.output asked = .ok socket → needed ⟨node.id, socket⟩) (within : run.Within needed) :
    ((scene.resolve depth node asked).outcome run).2.Within needed := by
  induction depth generalizing node asked run with
  | zero => exact within
  | succ depth ih => exact step_within ih closed wanted within

theorem settles_sources (sound : scene.graph.Sound) (conforms : scene.catalog.Conforms) {record later : Record}
    (settles : scene.Settles (· ∈ scene.graph.nodes) options record later)
    (sources : ∀ entry ∈ record.memo, ∀ link ∈ scene.graph.links, link.target = entry.1.node →
      ⟨link.source, some link.output⟩ ∈ record.memo.map Prod.fst) :
    ∀ entry ∈ later.memo, ∀ link ∈ scene.graph.links, link.target = entry.1.node →
      ⟨link.source, some link.output⟩ ∈ later.memo.map Prod.fst := by
  cases settles with
  | output inside declared fed derived =>
    intro entry member link linked into
    rw [List.map_cons]
    apply List.mem_cons_of_mem
    rcases List.mem_cons.mp member with rfl | member
    · obtain ⟨e, known⟩ := fed.of_link sound conforms inside linked into
      exact List.mem_map_of_mem known
    · exact sources entry member link linked into

theorem memo_iff_needs (sound : scene.graph.Sound) (conforms : scene.catalog.Conforms) (depth : Nat) {node : Node}
    (inside : node ∈ scene.graph.nodes) {asked socket : Option String} (declared : node.output asked = .ok socket)
    (world : σ) {e : Expression} {later : Run σ}
    (ok : (scene.resolve depth node asked).outcome ⟨.fresh options, [], world⟩ = (.ok e, later)) (key : OutputKey) :
    key ∈ later.pass.memo.map Prod.fst ↔ scene.graph.Needs ⟨node.id, socket⟩ key := by
  constructor
  · intro settled
    obtain ⟨entry, member, rfl⟩ := List.mem_map.mp settled
    have wanted (other : Option String) (same : node.output asked = .ok other) :
        scene.graph.Needs ⟨node.id, socket⟩ ⟨node.id, other⟩ := by
      rw [declared] at same
      cases same
      exact .root
    have within := scene.resolve_within (fun _ _ needed linked into => needed.source linked into) depth node asked
      ⟨.fresh options, [], world⟩ wanted (by simp [Run.Within, Pass.fresh])
    rw [ok] at within
    exact within entry member
  · intro needs
    have resolves : scene.Resolves (· ∈ scene.graph.nodes) node asked _ _ :=
      scene.resolve_resolves (fun _ member => member) depth inside asked ⟨.fresh options, [], world⟩
    rw [ok] at resolves
    have sources := resolves.advances.progress.preserves
      (fun record => ∀ entry ∈ record.memo, ∀ link ∈ scene.graph.links, link.target = entry.1.node →
        ⟨link.source, some link.output⟩ ∈ record.memo.map Prod.fst)
      (settles_sources sound conforms) (by simp [Pass.record, Pass.fresh])
    induction needs with
    | root =>
      obtain ⟨own, same, kept⟩ := resolves.kept e rfl
      rw [declared] at same
      cases same
      exact List.mem_map_of_mem kept
    | source _ linked into ih =>
      obtain ⟨entry, member, rfl⟩ := List.mem_map.mp ih
      exact sources entry member _ linked into

end Scene

namespace NameTable

def Sampled (table : NameTable) (options : Options) : Prop :=
  ∃ name, table.Issued "texture_color"
    (Code.sample options.textureName.display options.samplerName.display).render name

theorem declare_length_le (table : NameTable) (name code : String) :
    (table.declare name code).2.bound.length ≤ table.bound.length + 1 := by
  simp only [declare, bind]
  split
  · simp
  · omega

theorem declare_sampled {table : NameTable} {options : Options} (sampled : table.Sampled options) (name code : String) :
    (table.declare name code).2.Sampled options := by
  obtain ⟨issued, known⟩ := sampled
  exact ⟨issued, known.mono (table.declare_kept name code)⟩

end NameTable

namespace NodeScope

variable {scope : NodeScope} {table : NameTable}

theorem sampled_sampled (scope : NodeScope) (table : NameTable) : (scope.sampled table).2.Sampled scope.options :=
  ⟨_, table.declare_issued "texture_color" _⟩

/-- The texture is sampled under one name, at no cost after the first time. -/
theorem sampled_again (known : table.Sampled scope.options) : (scope.sampled table).2 = table := by
  obtain ⟨name, issued⟩ := known
  have stem : Identifier.sanitize "texture_color" = "texture_color" := by decide
  rw [← stem] at issued
  show (table.declare "texture_color" _).2 = table
  rw [issued.declare_eq]

theorem Derives.length_le {result : Expression × NameTable} (derived : scope.Derives table result) :
    result.2.bound.length ≤ table.bound.length + 1 ∧ (table.Sampled scope.options → result.2.Sampled scope.options) ∨
      ¬table.Sampled scope.options ∧ result.2.Sampled scope.options ∧
        result.2.bound.length ≤ table.bound.length + 2 := by
  have once (table : NameTable) (name code : String) :
      (table.declare name code).2.bound.length ≤ table.bound.length + 1 ∧
        (table.Sampled scope.options → (table.declare name code).2.Sampled scope.options) :=
    ⟨table.declare_length_le name code, fun sampled => NameTable.declare_sampled sampled name code⟩
  cases derived with
  | mesh | relay => exact .inl ⟨Nat.le_succ _, id⟩
  | meshLane | color | extend | saturate | component => exact .inl (once table _ _)
  | vector => exact .inl (once (table.next "vec").2 _ _)
  | channel =>
    by_cases known : table.Sampled scope.options
    · rw [sampled_again known]
      exact .inl (once table _ _)
    · right
      have sample := table.declare_length_le "texture_color"
        (Code.sample scope.options.textureName.display scope.options.samplerName.display).render
      have lane := once (scope.sampled table).2
      refine ⟨known, (lane _ _).2 (scope.sampled_sampled table), ?_⟩
      exact (lane _ _).1.trans (Nat.succ_le_succ sample)

end NodeScope

def Record.Frugal (options : Options) (record : Record) : Prop :=
  record.names.bound.length ≤ record.memo.length ∨
    record.names.Sampled options ∧ record.names.bound.length ≤ record.memo.length + 1

theorem Scene.settles_frugal {scene : Scene σ} {allowed : Node → Prop} {options : Options} {record later : Record}
    (settles : scene.Settles allowed options record later) (frugal : record.Frugal options) : later.Frugal options := by
  cases settles with
  | output admitted declared fed derived =>
    unfold Record.Frugal at frugal
    simp only [Record.Frugal, List.length_cons]
    rcases derived.length_le with ⟨fits, sampled⟩ | ⟨new, sampled, fits⟩
    · rcases frugal with few | ⟨known, few⟩
      · exact .inl (by omega)
      · exact .inr ⟨sampled known, by omega⟩
    · rcases frugal with few | ⟨known, _⟩
      · exact .inr ⟨sampled, by omega⟩
      · exact absurd known new

theorem Expression.Backed.length_le {e : Expression} {names : NameTable} {body : List Binding}
    (backed : e.Backed names body) : e.statements.length ≤ names.bound.length := by
  have inside : body.map Binding.name ⊆ names.bound.map Prod.fst := by
    intro name member
    obtain ⟨binding, owned, rfl⟩ := List.mem_map.mp member
    obtain ⟨front, back, same, _⟩ := List.lookup_eq_some_iff.mp (backed.recorded binding owned)
    simp [same]
  have fits := backed.names_distinct.length_le_of_subset inside
  rw [backed.statements]
  simpa [texts] using fits

namespace Scene

variable {scene : Scene σ} {options : Options}

/-- A successful resolution in a fresh pass settles the outputs that the asked one needs, each of them once. Its result
    has at most one statement more than there are such outputs. -/
theorem resolve_shares (built : scene.graph.Built) (conforms : scene.catalog.Conforms) (valid : options.Valid)
    {node : Node} (inside : node ∈ scene.graph.nodes) (asked : Option String) (depth : Nat) (world : σ) {e : Expression}
    {later : Run σ} (ok : (scene.resolve depth node asked).outcome ⟨.fresh options, [], world⟩ = (.ok e, later)) :
    ∃ socket, node.output asked = .ok socket ∧
      (∀ key, later.pass.state key = .resolved ↔ scene.graph.Needs ⟨node.id, socket⟩ key) ∧
      (∀ key, key ∈ later.pass.memo.map Prod.fst ↔ scene.graph.Needs ⟨node.id, socket⟩ key) ∧
      (later.pass.memo.map Prod.fst).Nodup ∧
      e.statements.length ≤ {key | scene.graph.Needs ⟨node.id, socket⟩ key}.ncard + 1 := by
  have sound := built.sound
  have resolves : scene.Resolves Node.Accepted node asked _ _ :=
    scene.resolve_resolves sound.accepted depth (sound.accepted node inside) asked ⟨.fresh options, [], world⟩
  have start : scene.Sits (· ∈ scene.graph.nodes) [] ⟨.ask node asked, [], ⟨.fresh options, [], world⟩⟩ :=
    sits_fresh node asked inside options world
  obtain ⟨left, sits⟩ := start.steps (scene.resolve_steps depth node asked [] _)
  have orderly := sits.orderly
  have typed : ((scene.resolve depth node asked).outcome ⟨.fresh options, [], world⟩).2.pass.record.Typed options :=
    resolve_typed valid sound.accepted depth (sound.accepted node inside) asked rfl (Record.typed_empty options)
  rw [ok] at resolves orderly typed
  obtain ⟨socket, declared, kept⟩ := resolves.kept e rfl
  have settled := memo_iff_needs sound conforms depth inside declared world ok
  refine ⟨socket, declared, ?_, settled, orderly.once, ?_⟩
  · intro key
    rw [orderly.coherent key, settled key]
  · have frugal : later.pass.record.Frugal options :=
      resolves.advances.progress.preserves (Record.Frugal options) settles_frugal (.inl (Nat.le_refl 0))
    have counted : {key | scene.graph.Needs ⟨node.id, socket⟩ key}.ncard = later.pass.memo.length := by
      have same : {key | scene.graph.Needs ⟨node.id, socket⟩ key} = ↑(later.pass.memo.map Prod.fst).toFinset := by
        ext key
        rw [Set.mem_ofPred_eq, ← settled key, List.coe_toFinset, Set.mem_ofPred_eq]
      rw [same, Set.ncard_coe_finset, List.toFinset_card_of_nodup orderly.once, List.length_map]
    obtain ⟨types, _, entries⟩ := typed
    obtain ⟨⟨body, backed⟩, _⟩ := entries _ kept
    have fits := backed.length_le
    rw [counted]
    rcases frugal with few | ⟨_, few⟩
    · exact (fits.trans few).trans (Nat.le_succ _)
    · exact fits.trans few

end Scene

def Graph.tinted : Graph where
  key := 0
  name := standardName
  nodes := [⟨⟨0, 0⟩, .texture, "paint", []⟩, ⟨⟨0, 1⟩, .saturate, "clip", []⟩, ⟨⟨0, 2⟩, .vector, "mix", []⟩]
  links := [⟨⟨0, 0⟩, "r", ⟨0, 1⟩, "value"⟩, ⟨⟨0, 1⟩, "saturated", ⟨0, 2⟩, "x"⟩, ⟨⟨0, 1⟩, "saturated", ⟨0, 2⟩, "y"⟩,
    ⟨⟨0, 0⟩, "g", ⟨0, 2⟩, "z"⟩]
  issued := 3

theorem Graph.tinted_built : tinted.Built := by
  have paint := (Built.empty 0 standardName).add .texture "paint" rfl (by decide) (by decide)
  have clip := paint.add .saturate "clip" rfl (by decide) (by decide)
  have mix := clip.add .vector "mix" rfl (by decide) (by decide)
  have first := mix.join ⟨⟨0, 0⟩, .texture, "paint", []⟩ "r" ⟨⟨0, 1⟩, .saturate, "clip", []⟩ "value" rfl
  have second := first.join ⟨⟨0, 1⟩, .saturate, "clip", []⟩ "saturated" ⟨⟨0, 2⟩, .vector, "mix", []⟩ "x" rfl
  have third := second.join ⟨⟨0, 1⟩, .saturate, "clip", []⟩ "saturated" ⟨⟨0, 2⟩, .vector, "mix", []⟩ "y" rfl
  exact third.join ⟨⟨0, 0⟩, .texture, "paint", []⟩ "g" ⟨⟨0, 2⟩, .vector, "mix", []⟩ "z" rfl

/-- Four outputs are needed, one of them along two paths, and the bound is met: there are five statements. -/
theorem Scene.resolve_shares_tinted :
    let scene : Scene (List Emission) := ⟨.shipped, .tinted, .recorder .standard⟩
    let mix : Node := ⟨⟨0, 2⟩, .vector, "mix", []⟩
    scene.graph.Built ∧ scene.catalog.Conforms ∧ Options.standard.Valid ∧ mix ∈ scene.graph.nodes ∧
      ∃ e later, (scene.resolve 9 mix none).outcome ⟨.fresh .standard, [], []⟩ = (.ok e, later) ∧
        later.pass.memo.map Prod.fst =
          [⟨⟨0, 2⟩, some "vec"⟩, ⟨⟨0, 0⟩, some "g"⟩, ⟨⟨0, 1⟩, some "saturated"⟩, ⟨⟨0, 0⟩, some "r"⟩] ∧
        (∀ key, later.pass.state key = .resolved ↔ scene.graph.Needs ⟨⟨0, 2⟩, some "vec"⟩ key) ∧
        e.statements.length = 5 ∧ 5 ≤ {key | scene.graph.Needs ⟨⟨0, 2⟩, some "vec"⟩ key}.ncard + 1 := by
  intro scene mix
  have inside : mix ∈ scene.graph.nodes := by simp [scene, mix, Graph.tinted]
  refine ⟨Graph.tinted_built, Catalog.shipped_conforms, Options.standard_valid, inside, ?_⟩
  have size : (((scene.resolve 9 mix none).outcome ⟨.fresh .standard, [], []⟩).1.toOption.map fun e =>
      e.statements.length) = some 5 := by decide +kernel
  have settled : ((scene.resolve 9 mix none).outcome ⟨.fresh .standard, [], []⟩).2.pass.memo.map Prod.fst =
      [⟨⟨0, 2⟩, some "vec"⟩, ⟨⟨0, 0⟩, some "g"⟩, ⟨⟨0, 1⟩, some "saturated"⟩, ⟨⟨0, 0⟩, some "r"⟩] := by
    decide +kernel
  rcases ok : (scene.resolve 9 mix none).outcome ⟨.fresh .standard, [], []⟩ with ⟨cause | e, later⟩
  · rw [ok] at size
    cases size
  · rw [ok] at size settled
    have five : e.statements.length = 5 := Option.some.inj size
    obtain ⟨socket, declared, resolved, _, _, bounded⟩ := resolve_shares Graph.tinted_built Catalog.shipped_conforms
      Options.standard_valid inside none 9 [] ok
    cases declared
    rw [five] at bounded
    exact ⟨e, later, rfl, settled, resolved, five, bounded⟩

end ShaderGraph
