import ShaderGraph.Proofs.Names
import ShaderGraph.Proofs.Progress
import ShaderGraph.Proofs.Graph.Built

namespace ShaderGraph

open Shading

namespace Shape

theorem fill_proper (shape : Shape) {x : Binary64} (finite : x.IsFinite) : (shape.fill x).Proper := by
  cases shape
  · exact finite
  all_goals exact ⟨by decide, finite⟩

@[simp] theorem mentions_fill (shape : Shape) (x : Binary64) : (shape.fill x).term.mentions = [] := by
  cases shape <;> rfl

@[simp] theorem resources_fill (shape : Shape) (x : Binary64) : (shape.fill x).term.resources = [] := by
  cases shape <;> rfl

theorem fill_typed (shape : Shape) (x : Binary64) (scope : String → Option Shape) :
    (shape.fill x).term.value? typing scope = some shape := by
  cases shape <;> rfl

theorem padding_proper (missing : Nat) {x : Binary64} (finite : x.IsFinite) : (padding missing x).Proper := by
  simp only [padding]
  split
  · exact fill_proper _ finite
  · exact fill_proper _ finite
  · exact finite

theorem convert_proper (source target : Shape) {operand : Code} {pad : Binary64} (proper : operand.Proper)
    (primary : source ≠ .float → operand.IsPrimary) (finite : pad.IsFinite) :
    (source.convert target operand pad).Proper := by
  simp only [convert]
  split
  · exact proper
  · split
    · rename_i wider
      refine ⟨?_, proper, padding_proper _ finite⟩
      rintro rfl
      have least := source.lanes_pos
      have one : Shape.float.lanes = 1 := rfl
      omega
    · rename_i different narrower
      refine ⟨proper, primary ?_, ?_⟩
      · rintro rfl
        have least := target.lanes_pos
        have one : Shape.float.lanes = 1 := rfl
        exact different (lanes_injective (by omega))
      · exact List.all_eq_true.mp (by cases target <;> decide)

theorem convert_primary (source target : Shape) {operand : Code} {pad : Binary64}
    (wider : source.lanes ≤ target.lanes) (primary : target ≠ .float → source = target → operand.IsPrimary)
    (vector : target ≠ .float) : (source.convert target operand pad).IsPrimary := by
  simp only [convert]
  split
  · rename_i same
    exact primary vector same
  · rename_i different
    split
    · trivial
    · exact absurd (lanes_injective (by omega)) different

@[simp] theorem mentions_convert (source target : Shape) (operand : Code) (pad : Binary64) :
    (source.convert target operand pad).term.mentions = operand.term.mentions := by
  cases source <;> cases target <;> simp [convert, lanes, padding, Code.term, Term.mentions]

@[simp] theorem resources_convert (source target : Shape) (operand : Code) (pad : Binary64) :
    (source.convert target operand pad).term.resources = operand.term.resources := by
  cases source <;> cases target <;> simp [convert, lanes, padding, Code.term, Term.resources]

theorem padding_typed (missing : Nat) (some : 0 < missing) (most : missing < 4) (x : Binary64)
    (scope : String → Option Shape) :
    ∃ shape : Shape, shape.lanes = missing ∧ (padding missing x).term.value? typing scope = .some shape := by
  obtain rfl | rfl | rfl : missing = 1 ∨ missing = 2 ∨ missing = 3 := by omega
  · exact ⟨.float, rfl, rfl⟩
  · exact ⟨.vec2, rfl, rfl⟩
  · exact ⟨.vec3, rfl, rfl⟩

theorem lead_typed {source target : Shape} (narrower : target.lanes < source.lanes) :
    typing.swizzle target.lead source = some target := by
  cases source <;> cases target <;> first | decide | (simp [lanes] at narrower)

theorem convert_typed {source : Shape} (target : Shape) {operand : Code} (pad : Binary64)
    {scope : String → Option Shape} (typed : operand.term.value? typing scope = some source) :
    (source.convert target operand pad).term.value? typing scope = some target := by
  simp only [convert]
  split
  · rename_i same
    rw [typed, same]
  · rename_i different
    split
    · rename_i wider
      have least := source.lanes_pos
      have most := target.lanes_le_four
      obtain ⟨shape, missing, padded⟩ :=
        padding_typed (target.lanes - source.lanes) (by omega) (by omega) pad scope
      have sum : source.lanes + shape.lanes = target.lanes := by omega
      simp only [Code.term, Term.value?, typed, padded, Option.bind_eq_bind, Option.bind_some]
      simp [typing, sum]
    · rename_i notWider
      have narrower : target.lanes < source.lanes := by
        have : target.lanes ≠ source.lanes := fun same => different (lanes_injective same.symm)
        omega
      simp only [Code.term, Term.value?, typed, Option.bind_eq_bind, Option.bind_some, lead_typed narrower]

end Shape

/-- Statements that are a body of recorded definitions: each is made once, and its names are bound before it. -/
structure NameTable.Backs (names : NameTable) (body : List Binding) (statements : List Value) : Prop where
  statements : statements = texts body
  recorded : ∀ binding ∈ body, names.expression? binding.name = some binding.code
  distinct : body.Nodup
  ordered : Ordered NameTable.meshNames body

theorem NameTable.backs_nil (names : NameTable) : names.Backs [] [] := ⟨rfl, by simp, .nil, trivial⟩

theorem NameTable.Backs.names_distinct {names : NameTable} {body : List Binding} {statements : List Value}
    (backed : names.Backs body statements) : (body.map Binding.name).Nodup := by
  rw [List.Nodup, List.pairwise_map]
  refine backed.distinct.imp_of_mem ?_
  intro first second hf hs different same
  have code : first.code = second.code := by
    have recorded := backed.recorded first hf
    rw [same, backed.recorded second hs, Option.some.injEq] at recorded
    exact recorded.symm
  cases first
  cases second
  simp_all

theorem NameTable.Backs.merge {names : NameTable} {own other : List Binding} {left right : List Value}
    (first : names.Backs own left) (second : names.Backs other right) :
    names.Backs (unite own other) (ShaderGraph.merge left right) := by
  refine ⟨?_, ?_, nodup_unite first.distinct, ?_⟩
  · rw [first.statements, second.statements, merge_texts first.ordered.words second.ordered.words]
  · intro binding member
    rcases mem_unite.mp member with member | member
    · exact first.recorded binding member
    · exact second.recorded binding member
  · exact ordered_unite first.ordered second.ordered fun name known => List.mem_append_right _ known

namespace Expression

theorem mentions_operand (e : Expression) : e.operand.term.mentions = if e.var = "" then [] else [e.var] := by
  simp only [operand]
  split
  · simp
  · rfl

@[simp] theorem resources_operand (e : Expression) : e.operand.term.resources = [] := by
  simp only [operand]
  split
  · simp
  · rfl

theorem operand_primary {e : Expression} (vector : e.shape ≠ .float) : e.operand.IsPrimary := by
  simp only [operand]
  split
  · cases shape : e.shape with
    | float => exact absurd shape vector
    | _ => trivial
  · trivial

theorem operand_proper {e : Expression} (word : e.var = "" ∨ Word e.var) : e.operand.Proper := by
  simp only [operand]
  split
  · exact e.shape.fill_proper trivial
  · rename_i bound
    exact word.resolve_left bound

/-- The result of an expression is what its body binds last; an expression without statements is a variable of the mesh
    or nothing at all. -/
structure Backed (e : Expression) (names : NameTable) (body : List Binding) : Prop
    extends names.Backs body e.statements where
  result : (e.var ∈ "" :: NameTable.meshNames ∧ body = []) ∨ ∃ front last, body = front ++ [last] ∧ last.name = e.var

theorem Backed.mono {e : Expression} {names later : NameTable} {body : List Binding} (backed : e.Backed names body)
    (kept : names.Kept later) : e.Backed later body :=
  ⟨⟨backed.statements, fun binding member => kept _ _ (backed.recorded binding member), backed.distinct,
    backed.ordered⟩, backed.result⟩

theorem Backed.mentions_operand {e : Expression} {names : NameTable} {body : List Binding}
    (backed : e.Backed names body) :
    ∀ name ∈ e.operand.term.mentions, name ∈ body.map Binding.name ++ NameTable.meshNames := by
  intro name member
  rw [e.mentions_operand] at member
  split at member
  · simp at member
  · rename_i bound
    rw [List.mem_singleton.mp member]
    rcases backed.result with ⟨known, _⟩ | ⟨front, last, same, result⟩
    · exact List.mem_append_right _ ((List.mem_cons.mp known).resolve_left bound)
    · simp [same, result]

theorem Backed.execute {β : Type} {value : Evaluator β} (lawful : Lawful value) {start after : Scope β}
    {names : NameTable} (runs : names.Runs value start after)
    (mesh : ∀ name ∈ NameTable.meshNames, (start.lookup name).isSome) {e : Expression} {body : List Binding}
    (backed : e.Backed names body) :
    ∃ result, Shading.execute value start e.statements = some result ∧ Executed value start result body ∧
      value (result.lookup ·) e.operand.term = value (after.lookup ·) e.operand.term := by
  have executed := execute_executed lawful runs.written runs.ran
  have inside : ∀ binding ∈ body, binding ∈ names.body :=
    fun binding member => NameTable.mem_body_of_expression? (backed.recorded binding member)
  obtain ⟨result, ran, agrees⟩ := execute_agree lawful executed.wider
    (fun binding member => executed.holds binding (inside binding member))
    (fun binding member => executed.fresh binding (inside binding member)) backed.names_distinct backed.ordered mesh
  have done := execute_executed lawful backed.ordered.written ran
  refine ⟨result, by rw [backed.statements, ran], done, ?_⟩
  apply lawful.agree
  intro name mentioned
  have bound : (result.lookup name).isSome := by
    rw [done.names]
    rcases List.mem_append.mp (backed.mentions_operand name mentioned) with bound | known
    · exact .inr bound
    · exact .inl (mesh name known)
  obtain ⟨x, same⟩ := Option.isSome_iff_exists.mp bound
  rw [same, agrees name x same]

def Typed (e : Expression) (names : NameTable) (types : Scope Shape) : Prop :=
  (∃ body, e.Backed names body) ∧ e.operand.term.value? typing (types.lookup ·) = some e.shape

theorem Typed.mono {e : Expression} {names later : NameTable} {types wider : Scope Shape} (typed : e.Typed names types)
    (kept : names.Kept later) (extended : types.Extends wider) : e.Typed later wider := by
  obtain ⟨⟨body, backed⟩, shaped⟩ := typed
  exact ⟨⟨body, backed.mono kept⟩, (value?_lawful typing).extends extended shaped⟩

end Expression

def Options.resourceNames (options : Options) : List String :=
  [options.textureName.display, options.samplerName.display]

def Shading.meshTypes : Scope Shape := [("uv", .vec2), ("world_normal", .vec3), ("world_position", .vec4)]

theorem Shading.meshTypes_isSome {name : String} (known : (meshTypes.lookup name).isSome) :
    name ∈ NameTable.meshNames := by
  obtain ⟨entry, member, same⟩ := List.lookup_isSome_iff.mp known
  have all : ∀ entry ∈ meshTypes, entry.1 ∈ NameTable.meshNames := by decide
  rw [beq_iff_eq.mp same]
  exact all entry member

namespace NameTable

theorem meshNames_word {name : String} (mesh : name ∈ meshNames) : Word name := by
  simp only [meshNames, List.mem_cons, List.not_mem_nil, or_false] at mesh
  rcases mesh with rfl | rfl | rfl <;>
    exact ⟨List.all_eq_true.mp (by decide), _, _, by simp only [String.reduceToList]; rfl, by decide⟩

structure Typed (options : Options) (names : NameTable) (types : Scope Shape) : Prop where
  runs : names.Runs (Term.value? typing) meshTypes types
  resources : ∀ binding ∈ names.body, ∀ term, binding.Reads term →
    ∀ name ∈ term.resources, name ∈ options.resourceNames

variable {options : Options} {names : NameTable} {types : Scope Shape}

theorem typed_empty (options : Options) : Typed options empty meshTypes :=
  ⟨runs_empty _ _, by simp [body, empty]⟩

theorem Typed.executed (typed : names.Typed options types) : Executed (Term.value? typing) meshTypes types names.body :=
  execute_executed (value?_lawful typing) typed.runs.written typed.runs.ran

theorem Typed.mesh (typed : names.Typed options types) {var : String} {shape : Shape}
    (known : meshTypes.lookup var = some shape) : types.lookup var = some shape :=
  typed.executed.wider var shape known

theorem Typed.not_mesh (typed : names.Typed options types) {binding : Binding} (member : binding ∈ names.body) :
    binding.name ∉ meshNames := by
  have fresh := typed.executed.fresh binding member
  intro known
  have bound : ∀ name ∈ meshNames, (meshTypes.lookup name).isSome := by decide
  simpa [fresh] using bound binding.name known

theorem Typed.word (typed : names.Typed options types) {e : Expression} {body : List Binding}
    (backed : e.Backed names body) : e.var = "" ∨ Word e.var := by
  rcases backed.result with ⟨known, _⟩ | ⟨front, last, same, result⟩
  · exact (List.mem_cons.mp known).imp_right meshNames_word
  · right
    have recorded := backed.recorded last (by simp [same])
    obtain ⟨term, word, _⟩ := typed.runs.written last (mem_body_of_expression? recorded)
    rw [← result]
    exact word

theorem Typed.operand_proper (typed : names.Typed options types) {e : Expression} (given : e.Typed names types) :
    e.operand.Proper := by
  obtain ⟨⟨body, backed⟩, _⟩ := given
  exact Expression.operand_proper (typed.word backed)

/-- What mentions the result of an expression is none of the definitions that the expression rests on. -/
theorem Typed.unread (typed : names.Typed options types) {e : Expression} {body : List Binding}
    (backed : e.Backed names body) {term : Term} (mentioned : ∀ name ∈ e.operand.term.mentions, name ∈ term.mentions) :
    ∀ binding ∈ body, ¬binding.Reads term := by
  intro binding member reads
  rcases backed.result with ⟨_, none⟩ | ⟨front, last, same, result⟩
  · simp [none] at member
  · subst same
    have recorded := backed.recorded last (by simp)
    have unknown := typed.not_mesh (mem_body_of_expression? recorded)
    obtain ⟨_, word, _⟩ := typed.runs.written last (mem_body_of_expression? recorded)
    have bound : e.var ≠ "" := result ▸ word.ne_empty
    refine backed.ordered.last_unmentioned backed.names_distinct unknown member reads ?_
    rw [result]
    exact mentioned e.var (by rw [e.mentions_operand, if_neg bound]; simp)

structure Writes (name : String) (code : Code) : Prop where
  plain : plainEnd name = true
  proper : code.Proper

def TypedOn (options : Options) (names : NameTable) (types : Scope Shape) (result : Expression × NameTable) : Prop :=
  ∃ later, result.2.Typed options later ∧ names.Kept result.2 ∧ types.Extends later ∧ result.1.Typed result.2 later

theorem Typed.assigned (typed : names.Typed options types) {e : Expression} {body : List Binding}
    (backed : names.Backs body e.statements) {name : String} {code : Code} (writes : Writes name code) {shape : Shape}
    (shaped : code.term.value? typing (types.lookup ·) = some shape)
    (resources : ∀ name ∈ code.term.resources, name ∈ options.resourceNames)
    (mentions : ∀ name ∈ code.term.mentions, name ∈ body.map Binding.name ++ meshNames)
    (unread : ∀ binding ∈ body, ¬binding.Reads code.term) :
    TypedOn options names types (e.assigned names name code shape) := by
  obtain ⟨later, runs, wider, bound⟩ :=
    typed.runs.declare (value?_lawful typing) (fun _ => meshTypes_isSome) writes.plain writes.proper shaped
  have kept := names.declare_kept name code.render
  have recorded := names.declare_recorded name code.render
  have word := names.declare_word name code.render
  obtain ⟨_, _, change⟩ := names.declare_cases name code.render
  simp only [TypedOn, Expression.assigned]
  generalize names.declare name code.render = issued at *
  have reads : Binding.Reads ⟨issued.1, code.render⟩ code.term := ⟨word, code, writes.proper, rfl, rfl⟩
  refine ⟨later, ⟨runs, ?_⟩, kept, wider, ⟨body ++ [⟨issued.1, code.render⟩], ⟨?_, ?_, ?_, ?_⟩, ?_⟩, ?_⟩
  · intro binding member term binds
    rcases change with ⟨_, same⟩ | ⟨_, extended, _⟩
    · rw [same] at member
      exact typed.resources binding member term binds
    · rw [extended] at member
      rcases List.mem_append.mp member with member | member
      · exact typed.resources binding member term binds
      · rw [List.mem_singleton.mp member] at binds
        rw [binds.unique reads]
        exact resources
  · simp [Expression.push, Expression.bind, backed.statements, texts, Binding.text]
  · intro binding member
    rcases List.mem_append.mp member with member | member
    · exact kept _ _ (backed.recorded binding member)
    · rw [List.mem_singleton.mp member]
      exact recorded
  · -- The name may be an old one, but no statement of the body has this definition.
    simp only [List.nodup_append, backed.distinct, true_and]
    refine ⟨by simp, ?_⟩
    intro binding member other last same
    rw [List.mem_singleton.mp last] at same
    exact unread binding member (same ▸ reads)
  · exact ordered_append.mpr ⟨backed.ordered, ⟨code.term, reads, mentions⟩, trivial⟩
  · exact .inr ⟨body, _, rfl, rfl⟩
  · simp [Expression.bind, Expression.operand, word.ne_empty, Code.term, Term.value?, bound]

theorem Typed.unary (typed : names.Typed options types) {e : Expression} (given : e.Typed names types) {name : String}
    {code : Code} (writes : Writes name code) {shape : Shape}
    (shaped : code.term.value? typing (types.lookup ·) = some shape) (resources : code.term.resources = [])
    (mentions : code.term.mentions = e.operand.term.mentions) :
    TypedOn options names types (e.assigned names name code shape) := by
  obtain ⟨⟨body, backed⟩, _⟩ := given
  refine typed.assigned backed.toBacks writes shaped (by simp [resources]) ?_ ?_
  · rw [mentions]
    exact backed.mentions_operand
  · exact typed.unread backed fun name member => mentions ▸ member

theorem typed_zero (shape : Shape) (names : NameTable) (types : Scope Shape) :
    (Expression.zero shape).Typed names types :=
  ⟨⟨[], names.backs_nil, .inl ⟨List.mem_cons_self, rfl⟩⟩, shape.fill_typed _ _⟩

theorem Typed.variable (typed : names.Typed options types) {var : String} {shape : Shape}
    (known : meshTypes.lookup var = some shape) : Expression.Typed ⟨[], shape, var⟩ names types := by
  have mesh := meshTypes_isSome (Option.isSome_of_eq_some known)
  have bound : var ≠ "" := by rintro rfl; revert mesh; decide
  refine ⟨⟨[], names.backs_nil, .inl ⟨List.mem_cons_of_mem _ mesh, rfl⟩⟩, ?_⟩
  simp [Expression.operand, bound, Code.term, Term.value?, typed.mesh known]

end NameTable

theorem NodeKind.mesh?_known {kind : NodeKind} {whole var : String} {shape : Shape}
    (mesh : kind.mesh? = some (whole, var, shape)) : meshTypes.lookup var = some shape := by
  cases kind <;> cases mesh <;> decide

theorem NodeKind.mesh?_bound {kind : NodeKind} {whole var : String} {shape : Shape}
    (mesh : kind.mesh? = some (whole, var, shape)) : var ≠ "" := by
  cases kind <;> cases mesh <;> decide

def Shading.laneNames : List String := ["x", "y", "z", "w", "r", "g", "b", "a"]

theorem NodeKind.mesh?_lane {kind : NodeKind} {whole var lane : String} {shape : Shape}
    (mesh : kind.mesh? = some (whole, var, shape)) (declared : lane ∈ kind.outputs) (other : lane ≠ whole) :
    lane ∈ laneNames ∧ typing.swizzle lane shape = some .float := by
  cases kind <;> cases mesh <;>
    simp only [outputs, List.mem_cons, List.not_mem_nil, or_false] at declared <;>
    rcases declared with rfl | rfl | rfl | rfl | rfl <;> first | exact absurd rfl other | decide

theorem Shading.laneNames_typed {lane : String} (named : lane ∈ laneNames) :
    typing.swizzle lane .vec4 = some .float := by
  have all : ∀ lane ∈ laneNames, typing.swizzle lane .vec4 = some .float := by decide
  exact all lane named

theorem NodeKind.texture_lane {lane : String} (declared : lane ∈ outputs .texture) (other : lane ≠ "color") :
    lane ∈ laneNames := by
  have all : ∀ lane ∈ outputs .texture, lane ≠ "color" → lane ∈ laneNames := by decide
  exact all lane declared other

theorem NodeKind.component_lane {lane : String} (declared : lane ∈ outputs .component) : lane ∈ laneNames := by
  have all : ∀ lane ∈ outputs .component, lane ∈ laneNames := by decide
  exact all lane declared

theorem Options.name?_chars {value : Value} (named : (Options.name? value).isSome) :
    ∀ c ∈ value.display.toList, Text.continuesIdentifier c = true := by
  cases value with
  | text name =>
    have identifier : Text.isIdentifier name = true := by
      cases h : Text.isIdentifier name with
      | true => rfl
      | false => simp [Options.name?, h] at named
    intro c member
    simp only [Value.display] at member
    simp only [Text.isIdentifier] at identifier
    split at identifier
    · cases identifier
    · rename_i first rest same
      rw [Bool.and_eq_true, List.all_eq_true] at identifier
      rw [same] at member
      rcases List.mem_cons.mp member with rfl | member
      · simp [Text.continuesIdentifier, identifier.1]
      · exact identifier.2 c member
  | _ => simp [Options.name?] at named

theorem Options.Valid.display {value : Value} (named : (Options.name? value).isSome) :
    ∀ c ∈ value.display.toList, c ≠ ',' := by
  have comma : Text.continuesIdentifier ',' = false := by decide +kernel
  rintro c member rfl
  rw [Options.name?_chars named _ member] at comma
  cases comma

theorem Options.standard_valid : Options.standard.Valid where
  group := rfl
  texture := rfl
  sampler := rfl
  bindings := by decide
  alpha := ⟨_, rfl⟩
  textureName := by decide +kernel
  samplerName := by decide +kernel
  names := by decide +kernel

namespace NodeScope

open NameTable

variable {scope : NodeScope} {names : NameTable} {types : Scope Shape}

theorem sample_writes (valid : scope.options.Valid) :
    Writes "texture_color" (.sample scope.options.textureName.display scope.options.samplerName.display) :=
  ⟨by decide, Options.Valid.display valid.textureName, Options.Valid.display valid.samplerName⟩

theorem lane_writes {operand : Code} (proper : operand.Proper) (primary : operand.IsPrimary) {lane : String}
    (named : lane ∈ laneNames) (stem : String) : Writes (stem ++ lane) (.swizzle operand lane) := by
  have all : ∀ lane ∈ laneNames, plainEnd lane = true ∧ lane.toList.all Char.isAlpha = true := by decide
  exact ⟨plainEnd_append (all lane named).1 _, proper, primary, List.all_eq_true.mp (all lane named).2⟩

theorem extend_writes {e : Expression} (proper : e.operand.Proper) {pad : Binary64} (finite : pad.IsFinite) :
    Writes (e.stem ++ "_extend") (e.shape.convert e.shape.widen e.operand pad) :=
  ⟨plainEnd_append (by decide) _, e.shape.convert_proper _ proper Expression.operand_primary finite⟩

theorem saturate_writes {e : Expression} (proper : e.operand.Proper) :
    Writes (e.stem ++ "_saturate") (.clamp e.operand (e.shape.fill .zero) (e.shape.fill .one)) :=
  ⟨plainEnd_append (by decide) _, proper, e.shape.fill_proper trivial, e.shape.fill_proper trivial⟩

theorem component_writes {e : Expression} (proper : e.operand.Proper) {lane : String} (named : lane ∈ laneNames) :
    Writes (e.stem ++ "_" ++ lane) (.swizzle (e.shape.convert .vec4 e.operand .zero) lane) := by
  apply lane_writes _ _ named
  · exact e.shape.convert_proper _ proper Expression.operand_primary trivial
  · exact e.shape.convert_primary .vec4 e.shape.lanes_le_four
      (fun vector same => Expression.operand_primary (same ▸ vector)) (by decide)

theorem laneOf_proper {e : Expression} (proper : e.operand.Proper) : (laneOf e).Proper :=
  e.shape.convert_proper _ proper Expression.operand_primary trivial

theorem vector_writes {x y z w : Expression} (hx : x.operand.Proper) (hy : y.operand.Proper) (hz : z.operand.Proper)
    (hw : w.operand.Proper) (names : NameTable) :
    Writes (names.next "vec").1 (.compose (laneOf x) (laneOf y) (laneOf z) (laneOf w)) :=
  ⟨plainEnd_numbered _ _, laneOf_proper hx, laneOf_proper hy, laneOf_proper hz, laneOf_proper hw⟩

theorem sampled_typed (valid : scope.options.Valid) (typed : names.Typed scope.options types) :
    TypedOn scope.options names types (scope.sampled names) := by
  refine typed.assigned (backs_nil names) (sample_writes valid) ?_ ?_ ?_ (by simp)
  · have uv : types.lookup "uv" = some .vec2 := typed.mesh (by decide)
    simp only [Code.term, Term.value?, uv, Option.bind_eq_bind, Option.bind_some]
    rfl
  · simp [Code.term, Term.resources, Options.resourceNames]
  · simp [Code.term, Term.mentions, meshNames]

theorem lane_typed {lane : String} (typed : names.Typed scope.options types) {e : Expression}
    (given : e.Typed names types) (bound : e.var ≠ "") (named : lane ∈ laneNames)
    (inside : typing.swizzle lane e.shape = some .float) :
    TypedOn scope.options names types
      (e.assigned names (e.var ++ "_" ++ lane) (.swizzle (.var e.var) lane) .float) := by
  have operand : e.operand = .var e.var := by simp [Expression.operand, bound]
  have proper := typed.operand_proper given
  rw [operand] at proper
  refine typed.unary given (lane_writes proper trivial named _) ?_ (by simp [Code.term, Term.resources])
    (by simp [operand, Code.term, Term.mentions])
  have shaped := given.2
  rw [operand] at shaped
  simp only [Code.term, Term.value?] at shaped ⊢
  simp only [shaped, Option.bind_eq_bind, Option.bind_some, inside]

theorem extend_typed (typed : names.Typed scope.options types) {e : Expression} (given : e.Typed names types)
    {pad : Binary64} (finite : pad.IsFinite) :
    TypedOn scope.options names types
      (e.assigned names (e.stem ++ "_extend") (e.shape.convert e.shape.widen e.operand pad) e.shape.widen) :=
  typed.unary given (extend_writes (typed.operand_proper given) finite) (Shape.convert_typed _ pad given.2) (by simp)
    (by simp)

theorem saturate_typed (typed : names.Typed scope.options types) {e : Expression} (given : e.Typed names types) :
    TypedOn scope.options names types
      (e.assigned names (e.stem ++ "_saturate") (.clamp e.operand (e.shape.fill .zero) (e.shape.fill .one)) e.shape) := by
  refine typed.unary given (saturate_writes (typed.operand_proper given)) ?_ (by simp [Code.term, Term.resources])
    (by simp [Code.term, Term.mentions])
  simp only [Code.term, Term.value?, given.2, Shape.fill_typed, Option.bind_eq_bind, Option.bind_some]
  simp [typing]

theorem component_typed {lane : String} (typed : names.Typed scope.options types) {e : Expression}
    (given : e.Typed names types) (named : lane ∈ laneNames) :
    TypedOn scope.options names types
      (e.assigned names (e.stem ++ "_" ++ lane) (.swizzle (e.shape.convert .vec4 e.operand .zero) lane) .float) := by
  refine typed.unary given (component_writes (typed.operand_proper given) named) ?_
    (by simp [Code.term, Term.resources]) (by simp [Code.term, Term.mentions])
  simp only [Code.term, Term.value?, Shape.convert_typed .vec4 .zero given.2, Option.bind_eq_bind, Option.bind_some,
    laneNames_typed named]

theorem laneOf_typed (typed : names.Typed scope.options types) {e : Expression} (given : e.Typed names types) :
    (laneOf e).term.value? typing (types.lookup ·) = some .float ∧
      ∃ body, e.Backed names body ∧ (∀ name ∈ (laneOf e).term.mentions, name ∈ body.map Binding.name ++ meshNames) ∧
        ∀ term, (∀ name ∈ (laneOf e).term.mentions, name ∈ term.mentions) → ∀ binding ∈ body, ¬binding.Reads term := by
  obtain ⟨⟨body, backed⟩, shaped⟩ := given
  refine ⟨Shape.convert_typed _ _ shaped, body, backed, ?_, ?_⟩
  · rw [laneOf, Shape.mentions_convert]
    exact backed.mentions_operand
  · intro term mentioned
    rw [laneOf, Shape.mentions_convert] at mentioned
    exact typed.unread backed mentioned

theorem vector_typed (typed : names.Typed scope.options types) {x y z w : Expression} (hx : x.Typed names types)
    (hy : y.Typed names types) (hz : z.Typed names types) (hw : w.Typed names types) :
    TypedOn scope.options names types ((gathered x y z w).assigned (names.next "vec").2 (names.next "vec").1
      (.compose (laneOf x) (laneOf y) (laneOf z) (laneOf w)) .vec4) := by
  have next : (names.next "vec").2.Typed scope.options types := ⟨runs_next typed.runs "vec", typed.resources⟩
  obtain ⟨tx, bx, backx, mentionsx, unreadx⟩ := laneOf_typed typed hx
  obtain ⟨ty, bodyy, backy, mentionsy, unready⟩ := laneOf_typed typed hy
  obtain ⟨tz, bz, backz, mentionsz, unreadz⟩ := laneOf_typed typed hz
  obtain ⟨tw, bw, backw, mentionsw, unreadw⟩ := laneOf_typed typed hw
  have backs : names.Backs (unite (unite (unite (unite [] bx) bodyy) bz) bw) (gathered x y z w).statements :=
    (((names.backs_nil.merge backx.toBacks).merge backy.toBacks).merge backz.toBacks).merge backw.toBacks
  -- A number taken for a name defines nothing yet.
  change TypedOn scope.options (names.next "vec").2 types _
  refine next.assigned ⟨backs.statements, backs.recorded, backs.distinct, backs.ordered⟩
    (vector_writes (typed.operand_proper hx) (typed.operand_proper hy) (typed.operand_proper hz)
      (typed.operand_proper hw) names) ?_ ?_ ?_ ?_
  · simp only [Code.term, Term.value?, tx, ty, tz, tw, Option.bind_eq_bind, Option.bind_some]
    rfl
  · simp [Code.term, Term.resources, laneOf]
  · intro name member
    simp only [Code.term, Term.mentions, List.mem_append] at member
    have inside (body : List Binding) (part : ∀ binding ∈ body, binding ∈ unite (unite (unite (unite [] bx) bodyy) bz) bw)
        (known : name ∈ body.map Binding.name ++ meshNames) :
        name ∈ (unite (unite (unite (unite [] bx) bodyy) bz) bw).map Binding.name ++ meshNames := by
      rcases List.mem_append.mp known with bound | mesh
      · obtain ⟨binding, owned, rfl⟩ := List.mem_map.mp bound
        exact List.mem_append_left _ (List.mem_map_of_mem (part binding owned))
      · exact List.mem_append_right _ mesh
    rcases member with ((member | member) | member) | member
    · exact inside bx (fun _ member => by simp [mem_unite, member]) (mentionsx name member)
    · exact inside bodyy (fun _ member => by simp [mem_unite, member]) (mentionsy name member)
    · exact inside bz (fun _ member => by simp [mem_unite, member]) (mentionsz name member)
    · exact inside bw (fun _ member => by simp [mem_unite, member]) (mentionsw name member)
  · intro binding member
    simp only [mem_unite, List.not_mem_nil, false_or] at member
    rcases member with ((member | member) | member) | member
    · exact unreadx _ (fun name mentioned => by simp [Code.term, Term.mentions, mentioned]) binding member
    · exact unready _ (fun name mentioned => by simp [Code.term, Term.mentions, mentioned]) binding member
    · exact unreadz _ (fun name mentioned => by simp [Code.term, Term.mentions, mentioned]) binding member
    · exact unreadw _ (fun name mentioned => by simp [Code.term, Term.mentions, mentioned]) binding member

theorem Derives.typed {result : Expression × NameTable} (derived : scope.Derives names result)
    (valid : scope.options.Valid) (accepted : scope.node.Accepted)
    (outputs : ∀ lane, scope.output = some lane → lane ∈ scope.node.kind.outputs)
    (typed : names.Typed scope.options types) (inputs : ∀ entry ∈ scope.inputs, entry.2.Typed names types) :
    TypedOn scope.options names types result := by
  have given {socket : String} {e : Expression} (input : scope.inputs.lookup socket = some e) : e.Typed names types :=
    inputs (socket, e) (mem_of_lookup input)
  cases derived with
  | mesh kind _ => exact ⟨types, typed, .refl _, .refl _, typed.variable (NodeKind.mesh?_known kind)⟩
  | meshLane kind output other =>
    obtain ⟨named, inside⟩ := NodeKind.mesh?_lane kind (outputs _ output) other
    exact lane_typed typed (typed.variable (NodeKind.mesh?_known kind)) (NodeKind.mesh?_bound kind) named inside
  | color kind output => exact sampled_typed valid typed
  | channel kind output other =>
    obtain ⟨middle, sampledTyped, kept, wider, sample⟩ := sampled_typed valid typed
    have bound : (scope.sampled names).1.var ≠ "" := (names.declare_word _ _).ne_empty
    have named := NodeKind.texture_lane (kind ▸ outputs _ output) other
    obtain ⟨later, laterTyped, laterKept, laterWider, lane⟩ :=
      lane_typed sampledTyped sample bound named (laneNames_typed named)
    exact ⟨later, laterTyped, kept.trans laterKept, wider.trans laterWider, lane⟩
  | extend kind input amount =>
    obtain ⟨x, finite, number⟩ := accepted.amount kind
    rw [number] at amount
    cases amount
    exact extend_typed typed (given input) finite
  | saturate _ input => exact saturate_typed typed (given input)
  | component kind input output =>
    exact component_typed typed (given input) (NodeKind.component_lane (kind ▸ outputs _ output))
  | vector _ first second third fourth =>
    exact vector_typed typed (given first) (given second) (given third) (given fourth)
  | relay _ input => exact ⟨types, typed, .refl _, .refl _, given input⟩

end NodeScope

def Record.Typed (record : Record) (options : Options) : Prop :=
  ∃ types, record.names.Typed options types ∧ ∀ entry ∈ record.memo, entry.2.Typed record.names types

theorem Record.typed_empty (options : Options) : Record.Typed ⟨[], .empty⟩ options :=
  ⟨meshTypes, NameTable.typed_empty options, by simp⟩

theorem Node.output_mem {node : Node} {asked socket : Option String} (declared : node.output asked = .ok socket)
    (lane : String) (named : socket = some lane) : lane ∈ node.kind.outputs := by
  subst named
  cases asked with
  | none =>
    simp only [Node.output, Except.ok.injEq] at declared
    exact List.mem_of_mem_head? declared
  | some socket =>
    obtain ⟨same, holds⟩ := Scene.output_some declared
    cases same
    simpa [Template.hasOutput, NodeKind.template] using holds

theorem Graph.Feed.typed {graph : Graph} {memo : List (OutputKey × Expression)} {node : Node} {socket : InputSocket}
    {e : Expression} (feed : graph.Feed memo node socket e) {names : NameTable} {types : Scope Shape}
    (entries : ∀ entry ∈ memo, entry.2.Typed names types) : e.Typed names types := by
  cases feed with
  | linked _ _ _ known => exact entries _ known
  | zero _ _ => exact NameTable.typed_zero _ _ _

namespace Scene

variable {σ : Type} {scene : Scene σ} {options : Options}

theorem Fed.typed {memo : List (OutputKey × Expression)} {node : Node} {sockets : List InputSocket} {inputs : Inputs}
    (fed : scene.Fed memo node sockets inputs) {names : NameTable} {types : Scope Shape}
    (entries : ∀ entry ∈ memo, entry.2.Typed names types) : ∀ entry ∈ inputs, entry.2.Typed names types := by
  intro entry member
  obtain ⟨_, _, _, feed⟩ := fed.of_mem member
  exact feed.typed entries

theorem settles_typed (valid : options.Valid) {record later : Record}
    (settles : scene.Settles Node.Accepted options record later) (typed : record.Typed options) :
    later.Typed options := by
  obtain ⟨types, names, entries⟩ := typed
  cases settles with
  | @output node asked socket inputs result accepted declared fed derived =>
    obtain ⟨wider, laterNames, kept, extended, result⟩ :=
      derived.typed valid accepted (Node.output_mem declared) names (fed.typed entries)
    refine ⟨wider, laterNames, ?_⟩
    intro entry member
    rcases List.mem_cons.mp member with rfl | member
    · exact result
    · exact (entries entry member).mono kept extended

theorem resolve_typed (valid : options.Valid) (accepted : ∀ node ∈ scene.graph.nodes, node.Accepted) (depth : Nat)
    {node : Node} (admitted : node.Accepted) (asked : Option String) {run : Run σ} (same : run.pass.options = options)
    (typed : run.pass.record.Typed options) :
    ((scene.resolve depth node asked).outcome run).2.pass.record.Typed options := by
  have resolves := scene.resolve_resolves accepted depth admitted asked run
  have progress := resolves.advances.progress
  rw [same] at progress
  exact progress.preserves (Record.Typed · options) (settles_typed valid) typed

end Scene

end ShaderGraph
