import ShaderGraph.Proofs.Account

namespace ShaderGraph

open Shading

/-- Names in two passes that stand for the same: a variable of the mesh, or definitions that are the same up to names
    that stand for the same. Two vectors are made by the same node. -/
inductive Graph.Paired (graph : Graph) (left right : Record) : String → String → Prop
  | mesh {name : String} (mesh : name ∈ NameTable.meshNames) : Paired graph left right name name
  | define {name other : String} {code otherCode : Code} {names back : String → String} (proper : code.Proper)
      (otherProper : otherCode.Proper) (recorded : left.names.expression? name = some code.render)
      (otherRecorded : right.names.expression? other = some otherCode.render)
      (there : otherCode.term = code.term.rename names) (andBack : code.term = otherCode.term.rename back)
      (owned : code.term.isQuad = true → ∃ key, graph.Owns left.memo key name ∧ graph.Owns right.memo key other)
      (operands : ∀ operand ∈ code.term.mentions, Paired graph left right operand (names operand)) :
      Paired graph left right name other

namespace Graph

variable {graph : Graph} {catalog : Catalog} {options : Options} {left right : Record} {name other : String}

theorem Paired.symm (paired : graph.Paired left right name other) :
    graph.Paired right left other name := by
  induction paired with
  | mesh mesh => exact .mesh mesh
  | @define name other code otherCode names back proper otherProper recorded otherRecorded there andBack owned _ ih =>
    have returns : code.term.rename (back ∘ names) = code.term := by rw [← Term.rename_rename, ← there, ← andBack]
    refine .define otherProper proper otherRecorded recorded andBack there ?_ ?_
    · intro quad
      rw [there, Term.isQuad_rename] at quad
      obtain ⟨key, owns, otherOwns⟩ := owned quad
      exact ⟨key, otherOwns, owns⟩
    · intro operand mentioned
      rw [there, Term.mentions_rename, List.mem_map] at mentioned
      obtain ⟨source, member, rfl⟩ := mentioned
      have here : back (names source) = source := Term.eq_of_rename_eq_self returns source member
      rw [here]
      exact ih source member

theorem Paired.word (accounted : left.Accounted graph catalog options)
    (paired : graph.Paired left right name other) : Word name := by
  cases paired with
  | mesh mesh => exact NameTable.meshNames_word mesh
  | define _ _ recorded => exact (accounted.written recorded).1

theorem Owns.unique (accounted : left.Accounted graph catalog options) {key : OutputKey}
    (owns : graph.Owns left.memo key name) (also : graph.Owns left.memo key other) : name = other := by
  obtain ⟨_, e, member, rfl⟩ := owns
  obtain ⟨_, otherE, otherMember, rfl⟩ := also
  have same := List.inj_on_of_nodup_map accounted.once member otherMember rfl
  cases same
  rfl

section Pair

variable (accounted : left.Accounted graph catalog options) (otherAccounted : right.Accounted graph catalog options)

include accounted otherAccounted

/-- By induction on what the name stands for: its operands are paired with one name each, so the definition is the same in both cases, and it has
    one name in the other pass, or belongs to one vector. -/
theorem Paired.unique (paired : graph.Paired left right name other) :
    ∀ {second}, graph.Paired left right name second → second = other := by
  induction paired with
  | mesh mesh =>
    intro second also
    cases also with
    | mesh => rfl
    | define _ _ recorded => exact absurd mesh (accounted.written recorded).2
  | @define name other code otherCode names back proper otherProper recorded otherRecorded there andBack owned _ ih =>
    intro second also
    cases also with
    | mesh mesh => exact absurd mesh (accounted.written recorded).2
    | @define _ _ secondCode secondOther secondNames _ secondProper secondOtherProper secondRecorded secondOtherRecorded
        secondThere _ secondOwned operands =>
      have one : secondCode.term = code.term := by
        rw [recorded, Option.some.injEq] at secondRecorded
        have read := proper.read_render
        rw [secondRecorded, secondProper.read_render] at read
        exact Option.some.inj read
      rw [one] at secondThere secondOwned operands
      have sameOther : secondOther.term = otherCode.term := by
        rw [secondThere, there]
        apply Term.rename_congr
        intro operand mentioned
        exact ih operand mentioned (operands operand mentioned)
      cases quad : code.term.isQuad with
      | true =>
        obtain ⟨key, owns, otherOwns⟩ := owned quad
        obtain ⟨secondKey, secondOwns, secondOtherOwns⟩ := secondOwned quad
        have sameKey := accounted.owner owns secondOwns
        subst sameKey
        exact secondOtherOwns.unique otherAccounted otherOwns
      | false =>
        have simple : otherCode.term.isQuad = false := by rw [there, Term.isQuad_rename, quad]
        have text : secondOther.render = otherCode.render := by
          rw [← Code.write_term, sameOther, Code.write_term]
        have issued := otherAccounted.regular other _ _ otherRecorded otherProper.read_render simple
        rw [text] at secondOtherRecorded
        have secondIssued := otherAccounted.regular second _ _ secondOtherRecorded otherProper.read_render simple
        exact secondIssued.unique issued

end Pair

open Classical in
noncomputable def partner (graph : Graph) (left right : Record) (name : String) : String :=
  if paired : ∃ other, graph.Paired left right name other then paired.choose else name

structure Matches (graph : Graph) (left right : Record) (binding other : Binding) : Prop where
  paired : graph.Paired left right binding.name other.name
  recorded : left.names.expression? binding.name = some binding.code
  otherRecorded : right.names.expression? other.name = some other.code

/-- Expressions that are the same up to names that stand for the same. -/
structure Variant (graph : Graph) (left right : Record) (e other : Expression) : Prop where
  shape : other.shape = e.shape
  var : e.var = "" ∧ other.var = "" ∨ graph.Paired left right e.var other.var
  body : ∃ body otherBody, e.statements = texts body ∧ other.statements = texts otherBody ∧
    List.Forall₂ (graph.Matches left right) body otherBody

theorem Matches.symm {binding other : Binding} (matching : graph.Matches left right binding other) :
    graph.Matches right left other binding :=
  ⟨matching.paired.symm, matching.otherRecorded, matching.recorded⟩

theorem Variant.symm {e other : Expression} (variant : graph.Variant left right e other) :
    graph.Variant right left other e := by
  obtain ⟨shape, var, body, otherBody, statements, otherStatements, all⟩ := variant
  refine ⟨shape.symm, var.imp And.symm Paired.symm, otherBody, body, otherStatements, statements, ?_⟩
  exact all.flip.imp fun _ _ => Matches.symm

theorem variant_zero (graph : Graph) (left right : Record) (shape : Shape) :
    graph.Variant left right (.zero shape) (.zero shape) :=
  ⟨rfl, .inl ⟨rfl, rfl⟩, [], [], rfl, rfl, .nil⟩

theorem variant_mesh (graph : Graph) (left right : Record) {var : String} (shape : Shape)
    (mesh : var ∈ NameTable.meshNames) : graph.Variant left right ⟨[], shape, var⟩ ⟨[], shape, var⟩ :=
  ⟨rfl, .inr (.mesh mesh), [], [], rfl, rfl, .nil⟩

theorem matches_word (accounted : left.Accounted graph catalog options) {body body' : List Binding}
    (all : List.Forall₂ (graph.Matches left right) body body') : ∀ binding ∈ body, Word binding.name := by
  intro binding member
  obtain ⟨_, _, matching⟩ := exists_of_forall₂ all member
  exact matching.paired.word accounted

section Pair

variable (accounted : left.Accounted graph catalog options) (otherAccounted : right.Accounted graph catalog options)

include accounted otherAccounted

theorem partner_eq (paired : graph.Paired left right name other) : graph.partner left right name = other := by
  have some : ∃ other, graph.Paired left right name other := ⟨other, paired⟩
  rw [partner, dif_pos some]
  exact paired.unique accounted otherAccounted some.choose_spec

theorem partner_paired (paired : graph.Paired left right name other) :
    graph.Paired left right name (graph.partner left right name) := by
  rw [partner_eq accounted otherAccounted paired]
  exact paired

theorem matches_biUnique : Relator.BiUnique (graph.Matches left right) := by
  constructor
  · intro first second third one two
    have name : first.name = second.name := two.paired.symm.unique otherAccounted accounted one.paired.symm
    have code := two.recorded
    rw [← name, one.recorded, Option.some.injEq] at code
    cases first
    cases second
    simp_all
  · intro first second third one two
    have name : second.name = third.name := two.paired.unique accounted otherAccounted one.paired
    have code := two.otherRecorded
    rw [← name, one.otherRecorded, Option.some.injEq] at code
    cases second
    cases third
    simp_all

variable {e e' : Expression}

theorem Variant.follows (variant : graph.Variant left right e e') : e'.Follows e (graph.partner left right) := by
  refine ⟨variant.shape, ?_, ?_⟩
  · rcases variant.var with ⟨unbound, otherUnbound⟩ | paired
    · simp [unbound, otherUnbound]
    · simp [(paired.word accounted).ne_empty, (paired.symm.word otherAccounted).ne_empty]
  · intro bound
    rcases variant.var with ⟨unbound, _⟩ | paired
    · exact absurd unbound bound
    · exact (partner_eq accounted otherAccounted paired).symm

theorem Variant.named (variant : graph.Variant left right e e') {code code' : Code} {var var' : String}
    {shape : Shape} (proper : code.Proper) (proper' : code'.Proper)
    (recorded : left.names.expression? var = some code.render)
    (recorded' : right.names.expression? var' = some code'.render)
    (there : code'.term = code.term.rename (graph.partner left right))
    (andBack : code.term = code'.term.rename (graph.partner right left))
    (operands : ∀ operand ∈ code.term.mentions, ∃ other, graph.Paired left right operand other)
    (owned : code.term.isQuad = true → ∃ key, graph.Owns left.memo key var ∧ graph.Owns right.memo key var') :
    graph.Variant left right (e.named var code shape) (e'.named var' code' shape) := by
  have paired : graph.Paired left right var var' := by
    refine .define proper proper' recorded recorded' there andBack owned ?_
    intro operand mentioned
    obtain ⟨other, known⟩ := operands operand mentioned
    exact partner_paired accounted otherAccounted known
  obtain ⟨_, _, body, body', statements, statements', all⟩ := variant
  refine ⟨rfl, .inr paired, body ++ [⟨var, code.render⟩], body' ++ [⟨var', code'.render⟩], ?_, ?_, ?_⟩
  · simp [Expression.named, Expression.push, Expression.bind, statements, texts, Binding.text]
  · simp [Expression.named, Expression.push, Expression.bind, statements', texts, Binding.text]
  · exact List.rel_append all (.cons ⟨paired, recorded, recorded'⟩ .nil)

theorem partner_mesh (mesh : name ∈ NameTable.meshNames) : graph.partner left right name = name :=
  partner_eq accounted otherAccounted (.mesh mesh)

theorem Variant.operate (variant : graph.Variant left right e e') (operation : Operation) {var var' : String}
    (proper : (operation.code e).Proper) (proper' : (operation.code e').Proper)
    (recorded : left.names.expression? var = some (operation.code e).render)
    (recorded' : right.names.expression? var' = some (operation.code e').render) :
    graph.Variant left right (e.named var (operation.code e) (operation.shape e))
      (e'.named var' (operation.code e') (operation.shape e')) := by
  have mesh : "uv" ∈ NameTable.meshNames := by decide
  have follows := variant.follows accounted otherAccounted
  have back := variant.symm.follows otherAccounted accounted
  rw [operation.shape_follows follows]
  refine variant.named accounted otherAccounted proper proper' recorded recorded'
    (operation.rename_code follows (partner_mesh accounted otherAccounted mesh) proper)
    (operation.rename_code back (partner_mesh otherAccounted accounted mesh) proper') ?_ ?_
  · intro operand mentioned
    rcases Operation.mentions_code proper operand mentioned with rfl | ⟨rfl, bound⟩
    · exact ⟨"uv", .mesh mesh⟩
    · exact ⟨e'.var, variant.var.resolve_left fun unbound => bound unbound.1⟩
  · intro quad
    rw [operation.isQuad_code] at quad
    cases quad

theorem Variant.leads {result result' : Expression} {operations : List Operation}
    (variant : graph.Variant left right e e') (leads : left.names.Leads e operations result)
    (leads' : right.names.Leads e' operations result') : graph.Variant left right result result' := by
  induction leads generalizing e' with
  | done e =>
    cases leads'
    exact variant
  | step proper recorded _ ih =>
    cases leads' with
    | step proper' recorded' rest =>
      exact ih (variant.operate accounted otherAccounted _ proper proper' recorded recorded') rest

theorem Variant.joined {x x' : Expression} (variant : graph.Variant left right e e')
    (other : graph.Variant left right x x') :
    graph.Variant left right (NodeScope.joined e x) (NodeScope.joined e' x') := by
  obtain ⟨shape, var, own, own', statements, statements', all⟩ := variant
  obtain ⟨_, _, taken, taken', more, more', rest⟩ := other
  refine ⟨shape, var, unite own taken, unite own' taken', ?_, ?_, ?_⟩
  · rw [← merge_texts (matches_word accounted all) (matches_word accounted rest), ← statements, ← more]
    rfl
  · have back := all.flip.imp fun _ _ => Matches.symm
    have restBack := rest.flip.imp fun _ _ => Matches.symm
    rw [← merge_texts (matches_word otherAccounted back) (matches_word otherAccounted restBack), ← statements', ← more']
    rfl
  · exact forall₂_unite (matches_biUnique accounted otherAccounted) all rest

theorem Variant.vector {x x' y y' z z' w w' : Expression} (first : graph.Variant left right x x')
    (second : graph.Variant left right y y') (third : graph.Variant left right z z')
    (fourth : graph.Variant left right w w') {var var' : String} {key : OutputKey}
    (proper : (Code.compose (NodeScope.laneOf x) (NodeScope.laneOf y) (NodeScope.laneOf z) (NodeScope.laneOf w)).Proper)
    (proper' :
      (Code.compose (NodeScope.laneOf x') (NodeScope.laneOf y') (NodeScope.laneOf z') (NodeScope.laneOf w')).Proper)
    (recorded : left.names.expression? var =
      some (Code.compose (NodeScope.laneOf x) (NodeScope.laneOf y) (NodeScope.laneOf z) (NodeScope.laneOf w)).render)
    (recorded' : right.names.expression? var' =
      some (Code.compose (NodeScope.laneOf x') (NodeScope.laneOf y') (NodeScope.laneOf z') (NodeScope.laneOf w')).render)
    (owns : graph.Owns left.memo key var) (owns' : graph.Owns right.memo key var') :
    graph.Variant left right
      ((NodeScope.gathered x y z w).named var
        (.compose (NodeScope.laneOf x) (NodeScope.laneOf y) (NodeScope.laneOf z) (NodeScope.laneOf w)) .vec4)
      ((NodeScope.gathered x' y' z' w').named var'
        (.compose (NodeScope.laneOf x') (NodeScope.laneOf y') (NodeScope.laneOf z') (NodeScope.laneOf w')) .vec4) := by
  have gathered := ((((variant_zero graph left right .vec4).joined accounted otherAccounted first).joined accounted
    otherAccounted second).joined accounted otherAccounted third).joined accounted otherAccounted fourth
  have lane {e e' : Expression} (variant : graph.Variant left right e e') :
      (NodeScope.laneOf e').term = (NodeScope.laneOf e).term.rename (graph.partner left right) ∧
        (NodeScope.laneOf e).term = (NodeScope.laneOf e').term.rename (graph.partner right left) ∧
        ∀ operand ∈ (NodeScope.laneOf e).term.mentions, ∃ other, graph.Paired left right operand other := by
    refine ⟨(variant.follows accounted otherAccounted).laneOf, (variant.symm.follows otherAccounted accounted).laneOf, ?_⟩
    intro operand mentioned
    rw [NodeScope.laneOf, Shape.mentions_convert, e.mentions_operand] at mentioned
    split at mentioned
    · cases mentioned
    · rename_i bound
      rw [List.mem_singleton.mp mentioned]
      exact ⟨e'.var, variant.var.resolve_left fun unbound => bound unbound.1⟩
  obtain ⟨thereX, backX, operandX⟩ := lane first
  obtain ⟨thereY, backY, operandY⟩ := lane second
  obtain ⟨thereZ, backZ, operandZ⟩ := lane third
  obtain ⟨thereW, backW, operandW⟩ := lane fourth
  refine gathered.named accounted otherAccounted proper proper' recorded recorded' ?_ ?_ ?_ fun _ => ⟨key, owns, owns'⟩
  · show Term.quad .vec4 _ _ _ _ = .quad .vec4 _ _ _ _
    rw [thereX, thereY, thereZ, thereW]
  · show Term.quad .vec4 _ _ _ _ = .quad .vec4 _ _ _ _
    rw [← backX, ← backY, ← backZ, ← backW]
  · intro operand mentioned
    simp only [Code.term, Term.mentions, List.mem_append] at mentioned
    rcases mentioned with ((mentioned | mentioned) | mentioned) | mentioned
    · exact operandX operand mentioned
    · exact operandY operand mentioned
    · exact operandZ operand mentioned
    · exact operandW operand mentioned

end Pair

def InputVariants (graph : Graph) (left right : Record) : Inputs → Inputs → Prop :=
  List.Forall₂ fun entry other => entry.1 = other.1 ∧ graph.Variant left right entry.2 other.2

theorem InputVariants.lookup {inputs inputs' : Inputs} (variants : graph.InputVariants left right inputs inputs')
    {socket : String} {e : Expression} (found : inputs.lookup socket = some e) :
    ∃ e', inputs'.lookup socket = some e' ∧ graph.Variant left right e e' := by
  induction variants with
  | nil => cases found
  | @cons entry other _ _ head _ ih =>
    rw [List.lookup_cons] at found ⊢
    rw [← head.1]
    split at found
    · cases found
      exact ⟨other.2, rfl, head.2⟩
    · exact ih found

theorem Feed.variant {memo : List (OutputKey × Expression)} {node : Node} {socket : InputSocket} {e e' : Expression}
    (known : ∀ key e e', (key, e) ∈ memo → (key, e') ∈ right.memo → graph.Variant left right e e')
    (feed : graph.Feed memo node socket e) (feed' : graph.Feed right.memo node socket e') :
    graph.Variant left right e e' := by
  cases feed with
  | linked joined found _ member =>
    cases feed' with
    | linked joined' found' _ member' =>
      cases joined.symm.trans joined'
      cases found.symm.trans found'
      exact known _ _ _ member member'
    | zero dangling =>
      rw [dangling _ joined] at found
      cases found
  | zero dangling =>
    cases feed' with
    | linked joined' found' =>
      rw [dangling _ joined'] at found'
      cases found'
    | zero => exact graph.variant_zero left right socket.shape

theorem Supplies.variants {memo : List (OutputKey × Expression)} {node : Node} {sockets : List InputSocket}
    {inputs inputs' : Inputs}
    (known : ∀ key e e', (key, e) ∈ memo → (key, e') ∈ right.memo → graph.Variant left right e e')
    (supplies : graph.Supplies memo node sockets inputs) (supplies' : graph.Supplies right.memo node sockets inputs') :
    graph.InputVariants left right inputs inputs' := by
  induction supplies generalizing inputs' with
  | nil =>
    cases supplies'
    exact .nil
  | cons head _ ih =>
    cases supplies' with
    | cons head' rest' => exact .cons ⟨head.1.trans head'.1.symm, head.2.variant known head'.2⟩ (ih rest')

theorem recipe_variant {node : Node} {inputs inputs' : Inputs} {output : Option String}
    (variants : graph.InputVariants left right inputs inputs') {start : Expression} {operations : List Operation}
    (recipe : NodeScope.recipe? ⟨node, inputs, output, options⟩ = some (start, operations)) :
    ∃ start', NodeScope.recipe? ⟨node, inputs', output, options⟩ = some (start', operations) ∧
      graph.Variant left right start start' := by
  unfold NodeScope.recipe? at recipe ⊢
  cases kind : node.kind with
  | normal | uv | position | texture =>
    simp only [kind, Option.map_eq_some_iff] at recipe ⊢
    obtain ⟨lane, named, same⟩ := recipe
    cases same
    exact ⟨_, ⟨lane, named, rfl⟩, graph.variant_mesh left right _ (by decide)⟩
  | extend =>
    simp only [kind, Option.bind_eq_bind, Option.bind_eq_some_iff, pure, Option.some.injEq] at recipe ⊢
    obtain ⟨pad, padded, e, input, same⟩ := recipe
    cases same
    obtain ⟨e', input', variant⟩ := variants.lookup input
    exact ⟨e', ⟨pad, padded, e', input', rfl⟩, variant⟩
  | component =>
    simp only [kind, Option.bind_eq_bind, Option.bind_eq_some_iff, pure, Option.some.injEq] at recipe ⊢
    obtain ⟨lane, named, e, input, same⟩ := recipe
    cases same
    obtain ⟨e', input', variant⟩ := variants.lookup input
    exact ⟨e', ⟨lane, named, e', input', rfl⟩, variant⟩
  | vector => simp [kind] at recipe
  | saturate | print | preview =>
    simp only [kind, Option.map_eq_some_iff] at recipe ⊢
    obtain ⟨e, input, same⟩ := recipe
    cases same
    obtain ⟨e', input', variant⟩ := variants.lookup input
    exact ⟨e', ⟨e', input', rfl⟩, variant⟩

section Pair

variable (accounted : left.Accounted graph catalog options) (otherAccounted : right.Accounted graph catalog options)

include accounted otherAccounted

theorem made_variant {node : Node} (inside : node ∈ graph.nodes) {inputs inputs' : Inputs} {key : OutputKey}
    (same : node.id = key.node) (variants : graph.InputVariants left right inputs inputs') {e e' : Expression}
    (member : (key, e) ∈ left.memo) (member' : (key, e') ∈ right.memo)
    (made : NodeScope.Made ⟨node, inputs, key.socket, options⟩ left.names e)
    (made' : NodeScope.Made ⟨node, inputs', key.socket, options⟩ right.names e') : graph.Variant left right e e' := by
  cases made with
  | recipe recipe leads =>
    obtain ⟨start', recipe', variant⟩ := recipe_variant variants recipe
    cases made' with
    | recipe otherRecipe leads' =>
      cases recipe'.symm.trans otherRecipe
      exact variant.leads accounted otherAccounted leads leads'
    | vector kind =>
      rw [NodeScope.recipe?_vector kind] at recipe'
      cases recipe'
  | vector kind first second third fourth proper recorded =>
    obtain ⟨x', first', hx⟩ := variants.lookup first
    obtain ⟨y', second', hy⟩ := variants.lookup second
    obtain ⟨z', third', hz⟩ := variants.lookup third
    obtain ⟨w', fourth', hw⟩ := variants.lookup fourth
    cases made' with
    | recipe recipe' =>
      have none : NodeScope.recipe? ⟨node, inputs', key.socket, options⟩ = none := NodeScope.recipe?_vector kind
      rw [none] at recipe'
      cases recipe'
    | vector _ otherFirst otherSecond otherThird otherFourth proper' recorded' =>
      cases first'.symm.trans otherFirst
      cases second'.symm.trans otherSecond
      cases third'.symm.trans otherThird
      cases fourth'.symm.trans otherFourth
      exact hx.vector accounted otherAccounted hy hz hw proper proper' recorded recorded'
        ⟨⟨node, inside, same, kind⟩, _, member, rfl⟩ ⟨⟨node, inside, same, kind⟩, _, member', rfl⟩

/-- By induction on the results of the first pass: each was made from results before it. -/
theorem variant_of_mem (sound : graph.Sound) {key : OutputKey} {e e' : Expression} (member : (key, e) ∈ left.memo)
    (member' : (key, e') ∈ right.memo) : graph.Variant left right e e' := by
  have all : ∀ memo, memo ⊆ left.memo → graph.AccountsAll catalog options left.names memo →
      ∀ key e e', (key, e) ∈ memo → (key, e') ∈ right.memo → graph.Variant left right e e' := by
    intro memo
    induction memo with
    | nil =>
      intro _ _ key e e' member
      cases member
    | cons entry memo ih =>
      intro part made key e e' member member'
      have known := ih (fun _ inside => part (List.mem_cons_of_mem _ inside)) made.2
      rcases List.mem_cons.mp member with rfl | later
      · obtain ⟨⟨node, inside, same, inputs, supplied, here⟩, _⟩ := made
        obtain ⟨node', inside', same', inputs', supplied', here'⟩ := otherAccounted.made.of_mem member'
        have one : node' = node := List.inj_on_of_nodup_map sound.distinct inside' inside (same'.trans same.symm)
        subst one
        exact made_variant accounted otherAccounted inside same (supplied.variants known supplied') (part member)
          member' here here'
      · exact known key e e' later member'
  exact all left.memo (List.Subset.refl _) accounted.made key e e' member member'

end Pair

noncomputable def partners (graph : Graph) (left right : Record) (body : List Binding) (name : String) : String :=
  if name ∈ body.map Binding.name then graph.partner left right name else name

theorem partners_empty (accounted : left.Accounted graph catalog options) {body body' : List Binding}
    (all : List.Forall₂ (graph.Matches left right) body body') : graph.partners left right body "" = "" := by
  refine if_neg ?_
  intro member
  obtain ⟨binding, inside, empty⟩ := List.mem_map.mp member
  exact (matches_word accounted all binding inside).ne_empty empty

section Pair

variable (accounted : left.Accounted graph catalog options) (otherAccounted : right.Accounted graph catalog options)

include accounted otherAccounted

theorem Matches.reads {binding binding' : Binding} (matching : graph.Matches left right binding binding') :
    ∃ term, binding.Reads term ∧ binding'.code = (term.rename (graph.partner left right)).write := by
  obtain ⟨name, text⟩ := binding
  obtain ⟨name', text'⟩ := binding'
  obtain ⟨paired, recorded, recorded'⟩ := matching
  have word := paired.word accounted
  simp only at paired recorded recorded' word ⊢
  cases paired with
  | mesh mesh => exact absurd mesh (accounted.written recorded).2
  | @define _ _ code code' names _ proper proper' known known' there _ _ operands =>
    rw [recorded, Option.some.injEq] at known
    rw [recorded', Option.some.injEq] at known'
    refine ⟨code.term, ⟨word, code, proper, known, rfl⟩, ?_⟩
    rw [known', ← Code.write_term, there]
    congr 1
    apply Term.rename_congr
    intro operand mentioned
    exact (partner_eq accounted otherAccounted (operands operand mentioned)).symm

theorem partners_eq {body : List Binding} (member : name ∈ body.map Binding.name ++ NameTable.meshNames) :
    graph.partners left right body name = graph.partner left right name := by
  unfold partners
  split
  · rfl
  · rename_i unbound
    exact (partner_mesh accounted otherAccounted ((List.mem_append.mp member).resolve_left unbound)).symm

variable {body body' : List Binding} (all : List.Forall₂ (graph.Matches left right) body body')

include all

theorem partners_paired (member : name ∈ body.map Binding.name ++ NameTable.meshNames) :
    graph.Paired left right name (graph.partners left right body name) := by
  rw [partners_eq accounted otherAccounted member]
  rcases List.mem_append.mp member with member | mesh
  · obtain ⟨binding, inside, rfl⟩ := List.mem_map.mp member
    obtain ⟨_, _, matching⟩ := exists_of_forall₂ all inside
    exact partner_paired accounted otherAccounted matching.paired
  · exact partner_paired accounted otherAccounted (.mesh mesh)

theorem partners_injective {first second : String} (member : first ∈ body.map Binding.name ++ NameTable.meshNames)
    (otherMember : second ∈ body.map Binding.name ++ NameTable.meshNames)
    (same : graph.partners left right body first = graph.partners left right body second) : first = second := by
  have one := partners_paired accounted otherAccounted all member
  rw [same] at one
  exact (partners_paired accounted otherAccounted all otherMember).symm.unique otherAccounted accounted one.symm

theorem texts_partners (ordered : Ordered NameTable.meshNames body) :
    texts body' = (texts body).map (renamed (graph.partners left right body)) := by
  have statement {binding binding' : Binding} (member : binding ∈ body)
      (matching : graph.Matches left right binding binding') :
      renamed (graph.partners left right body) (.text binding.text) = .text binding'.text := by
    obtain ⟨term, reads, code⟩ := matching.reads accounted otherAccounted
    have inside := List.mem_append_left NameTable.meshNames (List.mem_map_of_mem (f := Binding.name) member)
    rw [reads.renamed, partners_eq accounted otherAccounted inside,
      partner_eq accounted otherAccounted matching.paired, Binding.text, code]
    congr 3
    apply Term.rename_congr
    intro name mentioned
    exact partners_eq accounted otherAccounted (ordered.mentions member reads name mentioned)
  -- The renaming is that of the whole body, so the induction is on a part of it.
  have part {front front' : List Binding} (all : List.Forall₂ (graph.Matches left right) front front')
      (inside : front ⊆ body) : texts front' = (texts front).map (renamed (graph.partners left right body)) := by
    induction all with
    | nil => rfl
    | cons here _ ih =>
      rw [List.cons_subset] at inside
      have first := statement inside.1 here
      have rest := ih inside.2
      simp only [texts, List.map_cons, List.map_map] at rest ⊢
      rw [rest, first]
  exact part all (List.Subset.refl _)

omit all

theorem Variant.renames {e e' : Expression} (variant : graph.Variant left right e e')
    {body : List Binding} (backed : e.Backed left.names body) :
    ∃ names, e.Renames names ∧ e' = e.rename names := by
  obtain ⟨shape, var, own, own', statements, statements', all⟩ := variant
  have same : own = body :=
    texts_injective (matches_word accounted all) backed.ordered.words (statements.symm.trans backed.statements)
  subst same
  have bound : boundNames e.statements = own.map Binding.name := by
    rw [statements, boundNames_texts backed.ordered.written]
  have lines : e'.statements = e.statements.map (renamed (graph.partners left right own)) := by
    rw [statements', statements]
    exact texts_partners accounted otherAccounted all backed.ordered
  have result : e'.var = graph.partners left right own e.var := by
    rcases var with ⟨unbound, unbound'⟩ | known
    · rw [unbound, unbound', partners_empty accounted all]
    · have inside : e.var ∈ own.map Binding.name ++ NameTable.meshNames := by
        rcases backed.result with ⟨mesh, _⟩ | ⟨front, last, whole, named⟩
        · exact List.mem_append_right _ ((List.mem_cons.mp mesh).resolve_left (known.word accounted).ne_empty)
        · exact List.mem_append_left _ (by simp [whole, named])
      rw [partners_eq accounted otherAccounted inside, partner_eq accounted otherAccounted known]
  refine ⟨graph.partners left right own, ⟨?_, ?_⟩, ?_⟩
  · rw [bound]
    intro first member second otherMember same
    exact partners_injective accounted otherAccounted all member otherMember same
  · rw [bound]
    intro name unbound
    exact if_neg unbound
  · cases e'
    simp_all [Expression.rename]

end Pair

end Graph

end ShaderGraph
