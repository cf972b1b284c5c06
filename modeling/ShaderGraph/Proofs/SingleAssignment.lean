import ShaderGraph.Proofs.Typing

namespace ShaderGraph

open Shading

/-- Each statement binds a name to the expression on record for it; the names are distinct, and none is a variable of the
    mesh. A definition mentions variables of the mesh, the texture and its sampler, and names bound by earlier
    statements. The statements have types, and the result has its shape. -/
structure Expression.SingleAssignment (e : Expression) (names : NameTable) (options : Options)
    (body : List Binding) : Prop where
  statements : e.statements = texts body
  recorded : ∀ binding ∈ body, names.expression? binding.name = some binding.code
  distinct : (body.map Binding.name).Nodup
  unreserved : ∀ binding ∈ body, binding.name ∉ NameTable.meshNames
  mentions : ∀ front binding back, body = front ++ binding :: back →
    ∃ term, Term.read? binding.code = some term ∧
      (∀ name ∈ term.mentions, name ∈ NameTable.meshNames ∨ name ∈ front.map Binding.name) ∧
      ∀ name ∈ term.resources, name ∈ options.resourceNames
  types : ∃ types, execute (Term.value? typing) meshTypes e.statements = some types ∧
    (e.var = "" ∧ e.statements = [] ∨ types.lookup e.var = some e.shape)

/-- A pass that goes on through resolutions of any nodes, whether these succeed or not, and through edits of the
    graph. -/
inductive Session {σ : Type} (options : Options) : Graph → Run σ → Prop
  | start {graph : Graph} (built : graph.Built) (world : σ) : Session options graph ⟨.fresh options, [], world⟩
  | edit {graph result : Graph} {run : Run σ} (session : Session options graph run) (edit : graph.Edit result) :
      Session options result run
  | evaluate {graph : Graph} {run : Run σ} (session : Session options graph run) (catalog : Catalog) (host : Host σ)
      (depth : Nat) (node : Node) (accepted : node.Accepted) (asked : Option String) (world : σ) :
      Session options graph
        ((Scene.resolve ⟨catalog, graph, host⟩ depth node asked).outcome { run with world := world }).2

namespace Session

variable {σ : Type} {options : Options} {graph : Graph} {run : Run σ}

theorem built (session : Session options graph run) : graph.Built := by
  induction session with
  | start built _ => exact built
  | edit _ edit ih => exact .edit ih edit
  | evaluate _ _ _ _ _ _ _ _ ih => exact ih

theorem preserves (session : Session options graph run) (invariant : Record → Prop) (start : invariant ⟨[], .empty⟩)
    (step : ∀ (scene : Scene σ) {record later}, scene.Settles Node.Accepted options record later →
      invariant record → invariant later) :
    run.pass.options = options ∧ invariant run.pass.record := by
  induction session with
  | start _ _ => exact ⟨rfl, start⟩
  | edit _ _ ih => exact ih
  | @evaluate graph run session catalog host depth node accepted asked world ih =>
    let scene : Scene σ := ⟨catalog, graph, host⟩
    have members : ∀ node ∈ graph.nodes, node.Accepted := session.built.sound.accepted
    have advances := (scene.resolve_resolves members depth accepted asked { run with world := world }).advances
    have progress := advances.progress
    simp only [ih.1] at progress
    exact ⟨advances.options.trans ih.1, progress.preserves invariant (step scene) ih.2⟩

theorem typed (session : Session options graph run) (valid : options.Valid) :
    run.pass.options = options ∧ run.pass.record.Typed options :=
  session.preserves (Record.Typed · options) (Record.typed_empty options) fun _ => Scene.settles_typed valid

/-- Whatever a shared pass keeps is in single assignment form. -/
theorem single_assignment (session : Session options graph run) (valid : options.Valid) {key : OutputKey}
    {e : Expression} (kept : (key, e) ∈ run.pass.memo) :
    ∃ body, e.SingleAssignment run.pass.names options body := by
  obtain ⟨_, types, names, entries⟩ := session.typed valid
  obtain ⟨⟨body, backed⟩, shaped⟩ := entries (key, e) kept
  have recorded (binding : Binding) (member : binding ∈ body) : binding ∈ run.pass.names.body :=
    NameTable.mem_body_of_expression? (backed.recorded binding member)
  refine ⟨body, backed.statements, backed.recorded, backed.names_distinct,
    fun binding member => names.not_mesh (recorded binding member), ?_, ?_⟩
  · rintro front binding back rfl
    obtain ⟨⟨term, reads, mentions⟩, _⟩ := (ordered_append.mp backed.ordered).2
    refine ⟨term, reads.code_eq, ?_, names.resources binding (recorded binding (by simp)) term reads⟩
    intro name mentioned
    rcases List.mem_append.mp (mentions name mentioned) with bound | mesh
    · exact .inr bound
    · exact .inl mesh
  · obtain ⟨result, ran, _, same⟩ := backed.execute (value?_lawful typing) names.runs (by decide)
    rw [shaped] at same
    refine ⟨result, ran, ?_⟩
    rcases Decidable.em (e.var = "") with unbound | bound
    · left
      rcases backed.result with ⟨_, none⟩ | ⟨front, last, _, named⟩
      · rw [backed.statements, none]
        exact ⟨unbound, rfl⟩
      · obtain ⟨_, word, _⟩ := names.runs.written last (recorded last (by simp [*]))
        exact absurd (named.trans unbound) word.ne_empty
    · right
      simpa [Expression.operand, bound, Code.term, Term.value?] using same

theorem single_assignment_swapped :
    ∃ (run : Run (List Emission)) (e : Expression), Session .standard (Graph.swapped.unlink ⟨0, 3⟩ "input").1 run ∧
      Options.standard.Valid ∧ (⟨⟨0, 2⟩, some "vec"⟩, e) ∈ run.pass.memo ∧ e.statements.length = 3 ∧
      ∃ body, e.SingleAssignment run.pass.names .standard body := by
  let cut := (Graph.swapped.unlink ⟨0, 3⟩ "input").1
  let failed := ((Scene.resolve ⟨.shipped, .swapped, .recorder .standard⟩ 9 ⟨⟨0, 3⟩, .preview, "view", []⟩
    (some "color")).outcome ⟨.fresh .standard, [], []⟩).2
  let run := ((Scene.resolve ⟨.shipped, cut, .recorder .standard⟩ 9 ⟨⟨0, 2⟩, .vector, "join", []⟩ none).outcome
    { failed with world := [] }).2
  have before : Session .standard cut failed :=
    ((start Graph.swapped_built []).evaluate .shipped (.recorder .standard) 9 _ ⟨[], rfl⟩ _ []).edit (.unlink _ _ _)
  have session : Session .standard cut run := before.evaluate .shipped (.recorder .standard) 9 _ ⟨[], rfl⟩ _ []
  have found : (run.pass.result? ⟨⟨0, 2⟩, some "vec"⟩).map (fun e => e.statements.length) = some 3 := by decide +kernel
  obtain ⟨e, known, three⟩ := Option.map_eq_some_iff.mp found
  have kept := Pass.mem_of_result? known
  exact ⟨run, e, session, Options.standard_valid, kept, three, single_assignment session Options.standard_valid kept⟩

end Session

end ShaderGraph
