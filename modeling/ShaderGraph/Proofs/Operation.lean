import ShaderGraph.Proofs.Issuing
import ShaderGraph.Proofs.Shading.Renaming
import ShaderGraph.Proofs.Typing

namespace ShaderGraph

open Shading

inductive Operation where
  | sample (texture sampler : String)
  | lane (letters : String)
  | component (letters : String)
  | extend (pad : Binary64)
  | saturate

namespace Operation

def code (e : Expression) : Operation → Code
  | sample texture sampler => .sample texture sampler
  | lane letters => .swizzle (.var e.var) letters
  | component letters => .swizzle (e.shape.convert .vec4 e.operand .zero) letters
  | extend pad => e.shape.convert e.shape.widen e.operand pad
  | saturate => .clamp e.operand (e.shape.fill .zero) (e.shape.fill .one)

def name (e : Expression) : Operation → String
  | sample _ _ => "texture_color"
  | lane letters => e.var ++ "_" ++ letters
  | component letters => e.stem ++ "_" ++ letters
  | extend _ => e.stem ++ "_extend"
  | saturate => e.stem ++ "_saturate"

def shape (e : Expression) : Operation → Shape
  | sample _ _ => .vec4
  | lane _ | component _ => .float
  | extend _ => e.shape.widen
  | saturate => e.shape

end Operation

namespace Shading.Term

def stem (term : Term) : String := term.mentions.headD "zero"

def suggestion : Term → String
  | sample .. => "texture_color"
  | swizzle operand letters => operand.stem ++ "_" ++ letters
  | clamp operand _ _ => operand.stem ++ "_saturate"
  | term => term.stem ++ "_extend"

end Shading.Term

theorem Expression.stem_operand (e : Expression) : e.operand.term.stem = e.stem := by
  rw [Term.stem, e.mentions_operand, Expression.stem]
  split <;> rfl

namespace Operation

theorem suggestion_code (operation : Operation) (e : Expression) :
    (operation.code e).term.suggestion = operation.name e := by
  have operand := e.stem_operand
  have converted (target : Shape) (pad : Binary64) : (e.shape.convert target e.operand pad).term.stem = e.stem := by
    rw [Term.stem, Shape.mentions_convert]
    exact operand
  cases operation with
  | sample texture sampler => rfl
  | lane letters => rfl
  | component letters =>
    show (e.shape.convert .vec4 e.operand .zero).term.stem ++ "_" ++ letters = _
    rw [converted]
    rfl
  | extend pad =>
    rw [name, ← converted e.shape.widen pad, code]
    cases shape : e.shape <;> by_cases unbound : e.var = "" <;>
      simp [Shape.convert, Shape.widen, Shape.lanes, Expression.operand, unbound, shape, Shape.fill] <;> rfl
  | saturate =>
    show e.operand.term.stem ++ "_saturate" = _
    rw [operand]
    rfl

theorem isQuad_code (operation : Operation) (e : Expression) : (operation.code e).term.isQuad = false := by
  cases operation with
  | extend pad =>
    rw [code]
    cases shape : e.shape <;> by_cases unbound : e.var = "" <;>
      simp [Shape.convert, Shape.widen, Shape.lanes, Expression.operand, unbound, shape, Shape.fill] <;> rfl
  | _ => rfl

end Operation

theorem Shape.rename_fill (shape : Shape) (x : Binary64) (names : String → String) :
    (shape.fill x).term.rename names = (shape.fill x).term := by
  cases shape <;> rfl

theorem Shape.rename_convert (source target : Shape) {operand other : Code} (pad : Binary64) {names : String → String}
    (same : other.term = operand.term.rename names) :
    (source.convert target other pad).term = (source.convert target operand pad).term.rename names := by
  cases source <;> cases target <;>
    simp [convert, lanes, padding, Code.term, Term.rename, Shape.rename_fill, same]

structure Expression.Follows (other e : Expression) (names : String → String) : Prop where
  shape : other.shape = e.shape
  bound : other.var = "" ↔ e.var = ""
  var : e.var ≠ "" → other.var = names e.var

theorem Expression.Follows.operand {other e : Expression} {names : String → String} (follows : other.Follows e names) :
    other.operand.term = e.operand.term.rename names := by
  unfold Expression.operand
  by_cases unbound : e.var = ""
  · rw [if_pos unbound, if_pos (follows.bound.mpr unbound), Shape.rename_fill, follows.shape]
  · rw [if_neg unbound, if_neg (mt follows.bound.mp unbound), follows.var unbound]
    rfl

theorem Expression.Follows.laneOf {other e : Expression} {names : String → String} (follows : other.Follows e names) :
    (NodeScope.laneOf other).term = (NodeScope.laneOf e).term.rename names := by
  unfold NodeScope.laneOf
  rw [follows.shape]
  exact e.shape.rename_convert .float .zero follows.operand

namespace Operation

theorem rename_code (operation : Operation) {other e : Expression} {names : String → String}
    (follows : other.Follows e names) (uv : names "uv" = "uv") (proper : (operation.code e).Proper) :
    (operation.code other).term = (operation.code e).term.rename names := by
  cases operation with
  | sample texture sampler =>
    show Term.sample texture sampler (.name "uv") = .sample texture sampler (.name (names "uv"))
    rw [uv]
  | lane letters =>
    have word : Word e.var := proper.1
    show Term.swizzle (.name other.var) letters = .swizzle (.name (names e.var)) letters
    rw [follows.var word.ne_empty]
  | component letters =>
    show Term.swizzle _ letters = .swizzle _ letters
    rw [follows.shape, e.shape.rename_convert .vec4 .zero follows.operand]
  | extend pad =>
    unfold code
    rw [follows.shape, e.shape.rename_convert _ pad follows.operand]
  | saturate =>
    show Term.clamp _ _ _ = .clamp _ _ _
    rw [follows.operand, follows.shape, Shape.rename_fill, Shape.rename_fill]

theorem mentions_code {operation : Operation} {e : Expression} (proper : (operation.code e).Proper) :
    ∀ name ∈ (operation.code e).term.mentions, name = "uv" ∨ name = e.var ∧ e.var ≠ "" := by
  have operand : ∀ name ∈ e.operand.term.mentions, name = "uv" ∨ name = e.var ∧ e.var ≠ "" := by
    intro name member
    rw [e.mentions_operand] at member
    split at member
    · cases member
    · rename_i bound
      exact .inr ⟨List.mem_singleton.mp member, bound⟩
  cases operation with
  | sample texture sampler =>
    intro name member
    exact .inl (List.mem_singleton.mp member)
  | lane letters =>
    intro name member
    have word : Word e.var := proper.1
    exact .inr ⟨List.mem_singleton.mp member, word.ne_empty⟩
  | component letters =>
    show ∀ name ∈ (e.shape.convert .vec4 e.operand .zero).term.mentions, _
    rw [Shape.mentions_convert]
    exact operand
  | extend pad =>
    rw [code, Shape.mentions_convert]
    exact operand
  | saturate => simpa [code, Code.term, Term.mentions] using operand

theorem shape_follows (operation : Operation) {other e : Expression} {names : String → String}
    (follows : other.Follows e names) : operation.shape other = operation.shape e := by
  cases operation with
  | extend pad => exact congrArg Shape.widen follows.shape
  | saturate => exact follows.shape
  | _ => rfl

end Operation

def Expression.named (e : Expression) (var : String) (code : Code) (shape : Shape) : Expression :=
  (e.push (.text (letStatement var code.render))).bind var shape

def NameTable.perform (table : NameTable) (e : Expression) : List Operation → Expression × NameTable
  | [] => (e, table)
  | operation :: rest =>
    let step := e.assigned table (operation.name e) (operation.code e) (operation.shape e)
    step.2.perform step.1 rest

/-- What a rule begins with, and the operations on it. A vector has four expressions to begin with and no recipe. -/
def NodeScope.recipe? (scope : NodeScope) : Option (Expression × List Operation) :=
  match scope.node.kind with
  | .normal => scope.output.map fun output => (⟨[], .vec3, "world_normal"⟩, part "normal" output)
  | .uv => scope.output.map fun output => (⟨[], .vec2, "uv"⟩, part "uv" output)
  | .position => scope.output.map fun output => (⟨[], .vec4, "world_position"⟩, part "position" output)
  | .texture => scope.output.map fun output => (⟨[], .vec2, "uv"⟩,
      .sample scope.options.textureName.display scope.options.samplerName.display :: part "color" output)
  | .extend => do
    let pad ← scope.node.amount.toPad.toOption
    return (← scope.inputs.lookup "value", [.extend pad])
  | .saturate => (scope.inputs.lookup "value").map fun e => (e, [.saturate])
  | .component => do
    let lane ← scope.output
    return (← scope.inputs.lookup "value", [.component lane])
  | .vector => none
  | .print => (scope.inputs.lookup "output").map fun e => (e, [])
  | .preview => (scope.inputs.lookup "input").map fun e => (e, [])
where
  part (whole output : String) : List Operation := if output = whole then [] else [.lane output]

namespace NodeScope

variable {scope : NodeScope} {table : NameTable} {result : Expression × NameTable}

theorem recipe?_vector (kind : scope.node.kind = .vector) : scope.recipe? = none := by
  unfold recipe?
  rw [kind]

theorem Derives.recipe (derived : scope.Derives table result) (other : scope.node.kind ≠ .vector) :
    ∃ start operations, scope.recipe? = some (start, operations) ∧ result = table.perform start operations := by
  unfold recipe?
  cases derived with
  | mesh kind output =>
    cases own : scope.node.kind <;> rw [own] at kind <;> cases kind <;>
      exact ⟨_, _, by rw [output]; rfl, by simp [recipe?.part, NameTable.perform]⟩
  | meshLane kind output notWhole =>
    cases own : scope.node.kind <;> rw [own] at kind <;> cases kind <;>
      exact ⟨_, _, by rw [output]; rfl, by simp [recipe?.part, notWhole, NameTable.perform, Operation.name, Operation.code, Operation.shape]⟩
  | color kind output =>
    rw [kind]
    exact ⟨_, _, by rw [output]; rfl, by simp [recipe?.part, NameTable.perform]; rfl⟩
  | channel kind output notWhole =>
    rw [kind]
    exact ⟨_, _, by rw [output]; rfl, by simp [recipe?.part, notWhole, NameTable.perform]; rfl⟩
  | extend kind input amount =>
    rw [kind]
    exact ⟨_, _, by rw [input, amount]; rfl, rfl⟩
  | saturate kind input =>
    rw [kind]
    exact ⟨_, _, by rw [input]; rfl, rfl⟩
  | component kind input output =>
    rw [kind]
    exact ⟨_, _, by rw [input, output]; rfl, rfl⟩
  | vector kind => exact absurd kind other
  | relay kind input =>
    cases own : scope.node.kind <;> rw [own] at kind <;> cases kind <;> exact ⟨_, _, by rw [input]; rfl, rfl⟩

end NodeScope

namespace NameTable

/-- A definition that is not a vector of four has the first name that was to be had for it. -/
def Regular (table : NameTable) : Prop :=
  ∀ name code term, table.expression? name = some code → Term.read? code = some term → term.isQuad = false →
    table.Issued (Identifier.sanitize term.suggestion) code name

theorem regular_empty : empty.Regular := by
  intro name code term recorded
  cases recorded

theorem Regular.declare {table : NameTable} (regular : table.Regular) {name : String} {code : Code}
    (proper : code.Proper) (suggested : code.term.isQuad = false → code.term.suggestion = name) :
    (table.declare name code.render).2.Regular := by
  intro other text term recorded read simple
  rcases expression?_declare recorded with old | ⟨rfl, rfl⟩
  · exact (regular other text term old read simple).mono (table.declare_kept name code.render)
  · rw [proper.read_render] at read
    cases read
    rw [suggested simple]
    exact table.declare_issued name code.render

inductive Leads (table : NameTable) : Expression → List Operation → Expression → Prop
  | done (e : Expression) : table.Leads e [] e
  | step {e result : Expression} {operation : Operation} {rest : List Operation} {var : String}
      (proper : (operation.code e).Proper) (recorded : table.expression? var = some (operation.code e).render)
      (leads : table.Leads (e.named var (operation.code e) (operation.shape e)) rest result) :
      table.Leads e (operation :: rest) result

theorem Leads.mono {table later : NameTable} {e result : Expression} {operations : List Operation}
    (leads : table.Leads e operations result) (kept : table.Kept later) : later.Leads e operations result := by
  induction leads with
  | done e => exact .done e
  | step proper recorded _ ih => exact .step proper (kept _ _ recorded) ih

/-- The code of each operation is read back, whatever names the ones before it are given. -/
def Writable (e : Expression) : List Operation → Prop
  | [] => True
  | operation :: rest =>
    (operation.code e).Proper ∧
      ∀ var, Word var → Writable (e.named var (operation.code e) (operation.shape e)) rest

theorem perform_leads {table : NameTable} (regular : table.Regular) {e : Expression} {operations : List Operation}
    (writable : Writable e operations) :
    table.Kept (table.perform e operations).2 ∧ (table.perform e operations).2.Regular ∧
      (table.perform e operations).2.Leads e operations (table.perform e operations).1 := by
  induction operations generalizing table e with
  | nil => exact ⟨.refl table, regular, .done e⟩
  | cons operation rest ih =>
    obtain ⟨proper, next⟩ := writable
    have stepped := regular.declare proper (fun _ => operation.suggestion_code e)
    obtain ⟨kept, after, leads⟩ := ih stepped (next _ (table.declare_word _ _))
    refine ⟨(table.declare_kept _ _).trans kept, after, ?_⟩
    exact .step proper (kept _ _ (table.declare_recorded _ _)) leads

end NameTable

namespace NodeScope

open NameTable

variable {scope : NodeScope} {names : NameTable}

theorem part_writable {e : Expression} {whole lane : String} (word : Word e.var)
    (named : lane ≠ whole → lane ∈ laneNames) : Writable e (recipe?.part whole lane) := by
  unfold recipe?.part
  split
  · trivial
  · rename_i notWhole
    have proper : (Code.var e.var).Proper := word
    exact ⟨(lane_writes proper trivial (named notWhole) "").proper, fun _ _ => trivial⟩

theorem mesh_writable {kind : NodeKind} {whole var lane : String} {shape : Shape}
    (known : kind.mesh? = some (whole, var, shape)) (output : lane ∈ kind.outputs) :
    Writable ⟨[], shape, var⟩ (recipe?.part whole lane) := by
  have word : Word var := meshNames_word (meshTypes_isSome (Option.isSome_of_eq_some (NodeKind.mesh?_known known)))
  refine part_writable word ?_
  intro notWhole
  exact (NodeKind.mesh?_lane known output notWhole).1

theorem recipe_writable {start : Expression} {operations : List Operation}
    (recipe : scope.recipe? = some (start, operations)) (valid : scope.options.Valid) (accepted : scope.node.Accepted)
    (outputs : ∀ lane, scope.output = some lane → lane ∈ scope.node.kind.outputs)
    (inputs : ∀ entry ∈ scope.inputs, entry.2.operand.Proper) : Writable start operations := by
  have given {socket : String} {e : Expression} (input : scope.inputs.lookup socket = some e) : e.operand.Proper :=
    inputs (socket, e) (mem_of_lookup input)
  unfold recipe? at recipe
  cases kind : scope.node.kind with
  | normal | uv | position =>
    simp only [kind, Option.map_eq_some_iff] at recipe
    obtain ⟨lane, output, same⟩ := recipe
    cases same
    exact mesh_writable rfl (kind ▸ outputs lane output)
  | texture =>
    simp only [kind, Option.map_eq_some_iff] at recipe
    obtain ⟨lane, output, same⟩ := recipe
    cases same
    exact ⟨(sample_writes valid).proper, fun var word =>
      part_writable word fun notWhole => NodeKind.texture_lane (kind ▸ outputs lane output) notWhole⟩
  | extend =>
    obtain ⟨x, finite, number⟩ := accepted.amount kind
    simp only [kind, number, Option.bind_eq_bind, Option.bind_eq_some_iff, pure, Option.some.injEq] at recipe
    obtain ⟨pad, padded, e, input, same⟩ := recipe
    cases padded
    cases same
    exact ⟨(extend_writes (given input) finite).proper, fun _ _ => trivial⟩
  | saturate =>
    simp only [kind, Option.map_eq_some_iff] at recipe
    obtain ⟨e, input, same⟩ := recipe
    cases same
    exact ⟨(saturate_writes (given input)).proper, fun _ _ => trivial⟩
  | component =>
    simp only [kind, Option.bind_eq_bind, Option.bind_eq_some_iff, pure, Option.some.injEq] at recipe
    obtain ⟨lane, output, e, input, same⟩ := recipe
    cases same
    have named := NodeKind.component_lane (kind ▸ outputs lane output)
    exact ⟨(component_writes (given input) named).proper, fun _ _ => trivial⟩
  | vector => simp [kind] at recipe
  | print | preview =>
    simp only [kind, Option.map_eq_some_iff] at recipe
    obtain ⟨e, input, same⟩ := recipe
    cases same
    trivial

inductive Made (scope : NodeScope) (names : NameTable) : Expression → Prop
  | recipe {start e : Expression} {operations : List Operation} (recipe : scope.recipe? = some (start, operations))
      (leads : names.Leads start operations e) : scope.Made names e
  | vector {x y z w : Expression} {var : String} (kind : scope.node.kind = .vector)
      (first : scope.inputs.lookup "x" = some x) (second : scope.inputs.lookup "y" = some y)
      (third : scope.inputs.lookup "z" = some z) (fourth : scope.inputs.lookup "w" = some w)
      (proper : (Code.compose (laneOf x) (laneOf y) (laneOf z) (laneOf w)).Proper)
      (recorded : names.expression? var = some (Code.compose (laneOf x) (laneOf y) (laneOf z) (laneOf w)).render) :
      scope.Made names ((gathered x y z w).named var (.compose (laneOf x) (laneOf y) (laneOf z) (laneOf w)) .vec4)

theorem Made.mono {later : NameTable} {e : Expression} (made : scope.Made names e) (kept : names.Kept later) :
    scope.Made later e := by
  cases made with
  | recipe recipe leads => exact .recipe recipe (leads.mono kept)
  | vector kind first second third fourth proper recorded =>
    exact .vector kind first second third fourth proper (kept _ _ recorded)

theorem Derives.made {result : Expression × NameTable} (derived : scope.Derives names result) (regular : names.Regular)
    (valid : scope.options.Valid) (accepted : scope.node.Accepted)
    (outputs : ∀ lane, scope.output = some lane → lane ∈ scope.node.kind.outputs)
    (inputs : ∀ entry ∈ scope.inputs, entry.2.operand.Proper) :
    names.Kept result.2 ∧ result.2.Regular ∧ scope.Made result.2 result.1 ∧
      (scope.node.kind = .vector → names.expression? result.1.var = none) := by
  have given {socket : String} {e : Expression} (input : scope.inputs.lookup socket = some e) : e.operand.Proper :=
    inputs (socket, e) (mem_of_lookup input)
  by_cases vector : scope.node.kind = .vector
  · obtain ⟨x, y, z, w, first, second, third, fourth, rfl⟩ := derived.vector_eq vector
    have writes := vector_writes (given first) (given second) (given third) (given fourth) names
    -- A number taken for a name defines nothing yet.
    have next : (names.next "vec").2.Regular := regular
    refine ⟨(names.next "vec").2.declare_kept _ _, next.declare writes.proper (by simp [Code.term, Term.isQuad]), ?_, ?_⟩
    · exact .vector vector first second third fourth writes.proper ((names.next "vec").2.declare_recorded _ _)
    · intro _
      exact names.declare_next_free (by decide) _
  · obtain ⟨start, operations, recipe, rfl⟩ := derived.recipe vector
    obtain ⟨kept, after, leads⟩ := perform_leads regular (recipe_writable recipe valid accepted outputs inputs)
    exact ⟨kept, after, .recipe recipe leads, fun kind => absurd kind vector⟩

end NodeScope

end ShaderGraph
