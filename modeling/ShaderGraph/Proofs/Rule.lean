import ShaderGraph.Node.Rule

namespace ShaderGraph

def Expression.assigned (e : Expression) (table : NameTable) (name : String) (code : Code) (shape : Shape) :
    Expression × NameTable :=
  let (var, names) := table.declare name code.render
  ((e.push (.text (letStatement var code.render))).bind var shape, names)

theorem Expression.outcome_assign (e : Expression) (name : String) (code : Code) (shape : Shape) (table : NameTable) :
    (e.assign name code shape).outcome table =
      (.ok (e.assigned table name code shape).1, (e.assigned table name code shape).2) := rfl

def NodeKind.mesh? : NodeKind → Option (String × String × Shape)
  | normal => some ("normal", "world_normal", .vec3)
  | uv => some ("uv", "uv", .vec2)
  | position => some ("position", "world_position", .vec4)
  | _ => none

def NodeKind.relay? : NodeKind → Option String
  | print => some "output"
  | preview => some "input"
  | _ => none

namespace NodeScope

def sampled (scope : NodeScope) (table : NameTable) : Expression × NameTable :=
  (Expression.zero .float).assigned table "texture_color"
    (.sample scope.options.textureName.display scope.options.samplerName.display) .vec4

def laneOf (e : Expression) : Code := e.shape.convert .float e.operand .zero

def joined (e other : Expression) : Expression := { e with statements := merge e.statements other.statements }

def gathered (x y z w : Expression) : Expression :=
  joined (joined (joined (joined (.zero .vec4) x) y) z) w

/-- The ways in which a rule makes an expression, and the names after it. -/
inductive Derives (scope : NodeScope) (table : NameTable) : Expression × NameTable → Prop
  | mesh {whole var : String} {shape : Shape} (kind : scope.node.kind.mesh? = some (whole, var, shape))
      (output : scope.output = some whole) : scope.Derives table (⟨[], shape, var⟩, table)
  | meshLane {whole var lane : String} {shape : Shape} (kind : scope.node.kind.mesh? = some (whole, var, shape))
      (output : scope.output = some lane) (other : lane ≠ whole) :
      scope.Derives table
        (Expression.assigned ⟨[], shape, var⟩ table (var ++ "_" ++ lane) (.swizzle (.var var) lane) .float)
  | color (kind : scope.node.kind = .texture) (output : scope.output = some "color") :
      scope.Derives table (scope.sampled table)
  | channel {lane : String} (kind : scope.node.kind = .texture) (output : scope.output = some lane)
      (other : lane ≠ "color") :
      scope.Derives table ((scope.sampled table).1.assigned (scope.sampled table).2
        ((scope.sampled table).1.var ++ "_" ++ lane) (.swizzle (.var (scope.sampled table).1.var) lane) .float)
  | extend {e : Expression} {pad : Binary64} (kind : scope.node.kind = .extend)
      (input : scope.inputs.lookup "value" = some e) (amount : scope.node.amount.toPad = .ok pad) :
      scope.Derives table
        (e.assigned table (e.stem ++ "_extend") (e.shape.convert e.shape.widen e.operand pad) e.shape.widen)
  | saturate {e : Expression} (kind : scope.node.kind = .saturate) (input : scope.inputs.lookup "value" = some e) :
      scope.Derives table
        (e.assigned table (e.stem ++ "_saturate") (.clamp e.operand (e.shape.fill .zero) (e.shape.fill .one)) e.shape)
  | component {e : Expression} {lane : String} (kind : scope.node.kind = .component)
      (input : scope.inputs.lookup "value" = some e) (output : scope.output = some lane) :
      scope.Derives table
        (e.assigned table (e.stem ++ "_" ++ lane) (.swizzle (e.shape.convert .vec4 e.operand .zero) lane) .float)
  | vector {x y z w : Expression} (kind : scope.node.kind = .vector) (first : scope.inputs.lookup "x" = some x)
      (second : scope.inputs.lookup "y" = some y) (third : scope.inputs.lookup "z" = some z)
      (fourth : scope.inputs.lookup "w" = some w) :
      scope.Derives table ((gathered x y z w).assigned (table.next "vec").2 (table.next "vec").1
        (.compose (laneOf x) (laneOf y) (laneOf z) (laneOf w)) .vec4)
  | relay {e : Expression} {socket : String} (kind : scope.node.kind.relay? = some socket)
      (input : scope.inputs.lookup socket = some e) : scope.Derives table (e, table)

theorem Derives.vector_eq {scope : NodeScope} {table : NameTable} {result : Expression × NameTable}
    (derived : scope.Derives table result) (vector : scope.node.kind = .vector) :
    ∃ x y z w, scope.inputs.lookup "x" = some x ∧ scope.inputs.lookup "y" = some y ∧
      scope.inputs.lookup "z" = some z ∧ scope.inputs.lookup "w" = some w ∧
      result = (gathered x y z w).assigned (table.next "vec").2 (table.next "vec").1
        (.compose (laneOf x) (laneOf y) (laneOf z) (laneOf w)) .vec4 := by
  cases derived with
  | vector _ first second third fourth => exact ⟨_, _, _, _, first, second, third, fourth, rfl⟩
  | mesh kind | meshLane kind | relay kind => rw [vector] at kind; cases kind
  | color kind | channel kind | extend kind | saturate kind | component kind => rw [vector] at kind; cases kind

theorem outcome_input {scope : NodeScope} {socket : String} {e : Expression}
    (given : scope.inputs.lookup socket = some e) (table : NameTable) :
    (scope.input socket).outcome table = (.ok e, table) := by
  simp [input, given]

theorem express_relay {scope : NodeScope} {input : String} (passes : scope.node.kind.relay? = some input) :
    scope.express = scope.input input := by
  unfold express
  cases kind : scope.node.kind <;> rw [kind] at passes <;> cases passes <;> rfl

theorem outcome_input_none {scope : NodeScope} {socket : String} (absent : scope.inputs.lookup socket = none)
    (table : NameTable) :
    (scope.input socket).outcome table =
      (.error (.failure (.inputMissing scope.node.name socket scope.output)), table) := by
  simp [input, absent]

theorem outcome_requireOutput {scope : NodeScope} {socket : String} (output : scope.output = some socket)
    (table : NameTable) : scope.requireOutput.outcome table = (.ok socket, table) := by
  simp [requireOutput, output]

theorem outcome_requireOutput_none {scope : NodeScope} (output : scope.output = none) (table : NameTable) :
    scope.requireOutput.outcome table = (.error (.failure (.outputNeeded scope.node.name)), table) := by
  simp [requireOutput, output]

def Plain (e : Expression) : Prop := e.statements.any Value.isList = false

theorem takeWhile_plain {e : Expression} (plain : Plain e) :
    e.statements.takeWhile (fun statement => !statement.isList) = e.statements := by
  simp only [Plain, List.any_eq_false] at plain
  have whole : (e.statements ++ []).takeWhile (fun statement => !statement.isList) = e.statements ++ [] :=
    List.takeWhile_append_of_pos (fun statement member => by simpa using plain statement member)
  simpa using whole

theorem merge_plain {own other : List Value} (left : own.any Value.isList = false)
    (right : other.any Value.isList = false) : (merge own other).any Value.isList = false := by
  induction other generalizing own with
  | nil => exact left
  | cons statement other ih =>
    rw [List.any_cons, Bool.or_eq_false_iff] at right
    rw [merge_cons]
    split
    · exact ih left right.2
    · exact ih (by simp [List.any_append, left, right.1]) right.2

theorem absorb_plain {e other : Expression} (own : Plain e) (others : Plain other) :
    e.absorb other = (.ok (), joined e other) := by
  rw [Expression.absorb, takeWhile_plain others]
  simp only [Plain] at own others
  simp [own, others, joined]

theorem outcome_takeLane {scope : NodeScope} {e scalar : Expression} {lane : String}
    (input : scope.inputs.lookup lane = some scalar) (own : Plain e) (other : Plain scalar) (table : NameTable) :
    (scope.takeLane e lane).outcome table = (.ok (joined e scalar, laneOf scalar), table) := by
  rw [takeLane, Step.outcome_bind_ok (outcome_input input table), absorb_plain own other]
  rfl

theorem takeLane_cases (scope : NodeScope) (e : Expression) (lane : String) (table : NameTable) :
    (∃ cause, (scope.takeLane e lane).outcome table = (.error cause, table)) ∨
      ∃ scalar, scope.inputs.lookup lane = some scalar ∧
        (scope.takeLane e lane).outcome table = (.ok (joined e scalar, laneOf scalar), table) := by
  cases input : scope.inputs.lookup lane with
  | none => exact .inl ⟨_, by rw [takeLane, Step.outcome_bind_error (outcome_input_none input table)]⟩
  | some scalar =>
    by_cases plain : Plain e ∧ Plain scalar
    · exact .inr ⟨scalar, rfl, outcome_takeLane input plain.1 plain.2 table⟩
    · refine .inl ⟨.merge .listStatement, ?_⟩
      have refused : (e.absorb scalar).1 = .error .listStatement := by
        simp only [Plain] at plain
        rw [Expression.absorb]
        split
        · rfl
        · rename_i own
          have other : scalar.statements.any Value.isList = true := by simpa [own] using plain
          rw [if_pos other]
      have stopped : e.absorb scalar = (.error .listStatement, (e.absorb scalar).2) := by rw [← refused]
      rw [takeLane, Step.outcome_bind_ok (outcome_input input table), stopped]
      rfl

def Settled (scope : NodeScope) (table : NameTable) (rule : Naming Expression) : Prop :=
  (∃ cause, rule.outcome table = (.error cause, table)) ∨
    ∃ result, rule.outcome table = (.ok result.1, result.2) ∧ scope.Derives table result

theorem builtin_settled {scope : NodeScope} {whole var : String} {shape : Shape}
    (kind : scope.node.kind.mesh? = some (whole, var, shape)) (table : NameTable) :
    scope.Settled table (scope.builtin whole var shape) := by
  cases output : scope.output with
  | none => exact .inl ⟨_, by rw [builtin, Step.outcome_bind_error (outcome_requireOutput_none output table)]⟩
  | some lane =>
    right
    have asked := outcome_requireOutput output table
    by_cases same : lane = whole
    · exact ⟨_, by rw [builtin, Step.outcome_bind_ok asked, if_pos same]; rfl, .mesh kind (by rw [output, same])⟩
    · exact ⟨_, by rw [builtin, Step.outcome_bind_ok asked, if_neg same]; rfl, .meshLane kind output same⟩

theorem texture_settled {scope : NodeScope} (kind : scope.node.kind = .texture) (table : NameTable) :
    scope.Settled table scope.texture := by
  cases output : scope.output with
  | none => exact .inl ⟨_, by rw [texture, Step.outcome_bind_error (outcome_requireOutput_none output table)]⟩
  | some lane =>
    right
    have asked := outcome_requireOutput output table
    have sample := (Expression.zero .float).outcome_assign "texture_color"
      (.sample scope.options.textureName.display scope.options.samplerName.display) .vec4 table
    by_cases same : lane = "color"
    · refine ⟨scope.sampled table, ?_, .color kind (by rw [output, same])⟩
      rw [texture, Step.outcome_bind_ok asked, Step.outcome_bind_ok sample, if_pos same]
      rfl
    · refine ⟨_, ?_, .channel kind output same⟩
      rw [texture, Step.outcome_bind_ok asked, Step.outcome_bind_ok sample, if_neg same]
      rfl

theorem extend_settled {scope : NodeScope} (kind : scope.node.kind = .extend) (table : NameTable) :
    scope.Settled table scope.extend := by
  cases input : scope.inputs.lookup "value" with
  | none => exact .inl ⟨_, by rw [NodeScope.extend, Step.outcome_bind_error (outcome_input_none input table)]⟩
  | some e =>
    have given := outcome_input input table
    cases amount : scope.node.amount.toPad with
    | error cause => exact .inl ⟨_, by rw [NodeScope.extend, Step.outcome_bind_ok given, amount]; rfl⟩
    | ok pad =>
      exact .inr ⟨_, by rw [NodeScope.extend, Step.outcome_bind_ok given, amount]; rfl, .extend kind input amount⟩

theorem saturate_settled {scope : NodeScope} (kind : scope.node.kind = .saturate) (table : NameTable) :
    scope.Settled table scope.saturate := by
  cases input : scope.inputs.lookup "value" with
  | none => exact .inl ⟨_, by rw [NodeScope.saturate, Step.outcome_bind_error (outcome_input_none input table)]⟩
  | some e =>
    exact .inr ⟨_, by rw [NodeScope.saturate, Step.outcome_bind_ok (outcome_input input table)]; rfl,
      .saturate kind input⟩

theorem component_settled {scope : NodeScope} (kind : scope.node.kind = .component) (table : NameTable) :
    scope.Settled table scope.component := by
  cases output : scope.output with
  | none =>
    exact .inl ⟨_, by rw [NodeScope.component, Step.outcome_bind_error (outcome_requireOutput_none output table)]⟩
  | some lane =>
    have asked := outcome_requireOutput output table
    cases input : scope.inputs.lookup "value" with
    | none =>
      exact .inl ⟨_, by
        rw [NodeScope.component, Step.outcome_bind_ok asked, Step.outcome_bind_error (outcome_input_none input table)]⟩
    | some e =>
      exact .inr ⟨_, by
        rw [NodeScope.component, Step.outcome_bind_ok asked, Step.outcome_bind_ok (outcome_input input table)]
        rfl, .component kind input output⟩

theorem vector_settled {scope : NodeScope} (kind : scope.node.kind = .vector) (table : NameTable) :
    scope.Settled table scope.vector := by
  simp only [Settled, NodeScope.vector]
  rcases scope.takeLane_cases (.zero .vec4) "x" table with ⟨cause, failed⟩ | ⟨x, first, ok⟩
  · exact .inl ⟨cause, by rw [Step.outcome_bind_error failed]⟩
  rw [Step.outcome_bind_ok ok]
  rcases scope.takeLane_cases (joined (.zero .vec4) x) "y" table with ⟨cause, failed⟩ | ⟨y, second, ok⟩
  · exact .inl ⟨cause, by rw [Step.outcome_bind_error failed]⟩
  rw [Step.outcome_bind_ok ok]
  rcases scope.takeLane_cases (joined (joined (.zero .vec4) x) y) "z" table with ⟨cause, failed⟩ | ⟨z, third, ok⟩
  · exact .inl ⟨cause, by rw [Step.outcome_bind_error failed]⟩
  rw [Step.outcome_bind_ok ok]
  rcases scope.takeLane_cases (joined (joined (joined (.zero .vec4) x) y) z) "w" table with
    ⟨cause, failed⟩ | ⟨w, fourth, ok⟩
  · exact .inl ⟨cause, by rw [Step.outcome_bind_error failed]⟩
  rw [Step.outcome_bind_ok ok]
  exact .inr ⟨_, rfl, .vector kind first second third fourth⟩

theorem relay_settled {scope : NodeScope} {socket : String} (kind : scope.node.kind.relay? = some socket)
    (table : NameTable) : scope.Settled table (scope.input socket) := by
  cases input : scope.inputs.lookup socket with
  | none => exact .inl ⟨_, outcome_input_none input table⟩
  | some e => exact .inr ⟨(e, table), outcome_input input table, .relay kind input⟩

theorem express_cases (scope : NodeScope) (table : NameTable) : scope.Settled table scope.express := by
  simp only [express]
  split
  · rename_i kind; exact builtin_settled (by rw [kind]; rfl) table
  · rename_i kind; exact builtin_settled (by rw [kind]; rfl) table
  · rename_i kind; exact builtin_settled (by rw [kind]; rfl) table
  · rename_i kind; exact texture_settled kind table
  · rename_i kind; exact extend_settled kind table
  · rename_i kind; exact saturate_settled kind table
  · rename_i kind; exact component_settled kind table
  · rename_i kind; exact vector_settled kind table
  · rename_i kind; exact relay_settled (by rw [kind]; rfl) table
  · rename_i kind; exact relay_settled (by rw [kind]; rfl) table

/-- What the kind of a node promises its rule: every declared input is there, a named output where there are outputs,
    and an amount that is a number. -/
structure Supplied (scope : NodeScope) : Prop where
  inputs : ∀ socket ∈ scope.node.kind.inputs, ∃ e, scope.inputs.lookup socket.name = some e ∧ Plain e
  output : scope.node.kind.outputs ≠ [] → scope.output.isSome
  amount : scope.node.kind = .extend → ∃ pad, scope.node.amount.toPad = .ok pad

theorem express_ok {scope : NodeScope} (supplied : scope.Supplied) (table : NameTable) :
    ∃ result, scope.express.outcome table = (.ok result.1, result.2) ∧ scope.Derives table result := by
  refine (scope.express_cases table).resolve_left ?_
  rintro ⟨cause, failed⟩
  have mesh (whole var : String) (shape : Shape) (named : scope.output.isSome) :
      ((scope.builtin whole var shape).outcome table).1 ≠ .error cause := by
    obtain ⟨lane, output⟩ := Option.isSome_iff_exists.mp named
    rw [builtin, Step.outcome_bind_ok (outcome_requireOutput output table)]
    split <;> simp [Expression.outcome_assign]
  have failure : (scope.express.outcome table).1 = .error cause := by rw [failed]
  obtain ⟨inputs, output, amount⟩ := supplied
  revert failure
  simp only [express]
  split
  · rename_i kind
    exact mesh _ _ _ (output (by rw [kind]; decide))
  · rename_i kind
    exact mesh _ _ _ (output (by rw [kind]; decide))
  · rename_i kind
    exact mesh _ _ _ (output (by rw [kind]; decide))
  · rename_i kind
    obtain ⟨lane, output⟩ := Option.isSome_iff_exists.mp (output (by rw [kind]; decide))
    rw [texture, Step.outcome_bind_ok (outcome_requireOutput output table),
      Step.outcome_bind_ok (Expression.outcome_assign ..)]
    split <;> simp [Expression.outcome_assign]
  · rename_i kind
    obtain ⟨e, input, _⟩ := inputs ⟨"value", .float, false⟩ (by rw [kind]; decide)
    obtain ⟨pad, padded⟩ := amount kind
    rw [NodeScope.extend, Step.outcome_bind_ok (outcome_input input table), padded]
    simp [Step.outcome_bind, Expression.outcome_assign]
  · rename_i kind
    obtain ⟨e, input, _⟩ := inputs ⟨"value", .float, false⟩ (by rw [kind]; decide)
    rw [NodeScope.saturate, Step.outcome_bind_ok (outcome_input input table)]
    simp [Expression.outcome_assign]
  · rename_i kind
    obtain ⟨lane, output⟩ := Option.isSome_iff_exists.mp (output (by rw [kind]; decide))
    obtain ⟨e, input, _⟩ := inputs ⟨"value", .vec4, false⟩ (by rw [kind]; decide)
    rw [NodeScope.component, Step.outcome_bind_ok (outcome_requireOutput output table),
      Step.outcome_bind_ok (outcome_input input table)]
    simp [Expression.outcome_assign]
  · rename_i kind
    obtain ⟨x, first, hx⟩ := inputs ⟨"x", .float, false⟩ (by rw [kind]; decide)
    obtain ⟨y, second, hy⟩ := inputs ⟨"y", .float, false⟩ (by rw [kind]; decide)
    obtain ⟨z, third, hz⟩ := inputs ⟨"z", .float, false⟩ (by rw [kind]; decide)
    obtain ⟨w, fourth, hw⟩ := inputs ⟨"w", .float, false⟩ (by rw [kind]; decide)
    have h0 : Plain (.zero .vec4) := rfl
    have h1 : Plain (joined (.zero .vec4) x) := merge_plain h0 hx
    have h2 : Plain (joined (joined (.zero .vec4) x) y) := merge_plain h1 hy
    have h3 : Plain (joined (joined (joined (.zero .vec4) x) y) z) := merge_plain h2 hz
    rw [NodeScope.vector, Step.outcome_bind_ok (outcome_takeLane first h0 hx table),
      Step.outcome_bind_ok (outcome_takeLane second h1 hy table),
      Step.outcome_bind_ok (outcome_takeLane third h2 hz table),
      Step.outcome_bind_ok (outcome_takeLane fourth h3 hw table)]
    simp [Step.outcome_bind, Naming.next, Expression.outcome_assign]
  · rename_i kind
    obtain ⟨e, input, _⟩ := inputs ⟨"output", .vec4, false⟩ (by rw [kind]; decide)
    simp [outcome_input input]
  · rename_i kind
    obtain ⟨e, input, _⟩ := inputs ⟨"input", .vec4, false⟩ (by rw [kind]; decide)
    simp [outcome_input input]

end NodeScope

end ShaderGraph
