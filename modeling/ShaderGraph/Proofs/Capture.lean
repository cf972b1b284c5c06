import ShaderGraph.Proofs.Emissions
import ShaderGraph.Proofs.History

namespace ShaderGraph

open Shading

namespace Identifier

theorem collapse_low (rest : List Char) : ['_'] <+: collapse ('_' :: rest) := by
  induction rest with
  | nil => exact List.prefix_rfl
  | cons c rest ih =>
    by_cases low : c = '_'
    · subst low
      rw [collapse, if_pos ⟨rfl, rfl⟩]
      exact ih
    · rw [collapse, if_neg (by simp [low])]
      exact ⟨_, rfl⟩

theorem collapse_append (front rest : List Char) : collapse front <+: collapse (front ++ rest) := by
  induction front with
  | nil => exact List.nil_prefix
  | cons c front ih =>
    cases front with
    | nil =>
      by_cases low : c = '_'
      · subst low
        exact collapse_low rest
      · simp [collapse, low]
    | cons d front =>
      by_cases double : c = '_' ∧ d = '_'
      · simpa [collapse, double] using ih
      · have kept (text : List Char) : collapse (c :: d :: text) = c :: collapse (d :: text) := by
          rw [collapse, if_neg (by simpa using double)]
        rw [List.cons_append, List.cons_append, kept, kept, List.prefix_cons_inj]
        exact ih

theorem sanitizeChars_append {c d : Char} {front : List Char} (letter : c.isDigit = false)
    (clean : collapse ((c :: d :: front).map fun c => if isNameChar c then c else '_') = c :: d :: front)
    (rest : List Char) : c :: d :: front <+: sanitizeChars (c :: d :: front ++ rest) := by
  have kept := collapse_append ((c :: d :: front).map fun c => if isNameChar c then c else '_')
    (rest.map fun c => if isNameChar c then c else '_')
  rw [clean, ← List.map_append] at kept
  obtain ⟨tail, same⟩ := kept
  have whole : complete (c :: d :: (front ++ tail)) = c :: d :: (front ++ tail) := by simp [complete, letter]
  unfold sanitizeChars
  rw [← same, List.cons_append, List.cons_append, whole]
  exact ⟨tail, rfl⟩

end Identifier

namespace NameTable

def stems : List String := ["uv_", "world_normal_", "world_position_", "zero_", "vec_"]

def Stemmed (name : String) : Prop := ∃ stem ∈ stems, stem.toList <+: name.toList

instance (name : String) : Decidable (Stemmed name) := inferInstanceAs (Decidable (∃ stem ∈ stems, _))

/-- A variable of the mesh, or a name that a statement in front of a sample may have. -/
def Reserved (name : String) : Prop := name ∈ meshNames ∨ Stemmed name

instance (name : String) : Decidable (Reserved name) := inferInstanceAs (Decidable (_ ∨ _))

theorem Stemmed.append {name : String} (stemmed : Stemmed name) (more : String) : Stemmed (name ++ more) := by
  obtain ⟨stem, known, begins⟩ := stemmed
  rw [Stemmed]
  refine ⟨stem, known, ?_⟩
  rw [String.toList_append]
  exact begins.trans (List.prefix_append _ _)

theorem Stemmed.sanitize {name : String} (stemmed : Stemmed name) : Stemmed (Identifier.sanitize name) := by
  obtain ⟨stem, known, rest, same⟩ := stemmed
  refine ⟨stem, known, ?_⟩
  rw [Identifier.sanitize, String.toList_ofList, ← same]
  simp only [stems, List.mem_cons, List.not_mem_nil, or_false] at known
  rcases known with rfl | rfl | rfl | rfl | rfl <;>
    exact Identifier.sanitizeChars_append (by decide) (by decide) rest

theorem Stemmed.candidate {name : String} (stemmed : Stemmed name) (k : Nat) : Stemmed (candidate name k) := by
  cases k with
  | zero => exact stemmed
  | succ k => exact (stemmed.append "_").append _

theorem stemmed_suggestion {stem : String} (known : stem = "zero" ∨ stem ∈ meshNames ∨ Stemmed stem) (more : String) :
    Stemmed (stem ++ "_" ++ more) := by
  have root : ∀ stem ∈ "zero" :: meshNames, Stemmed (stem ++ "_") := by decide
  rcases known with rfl | mesh | stemmed
  · exact (root "zero" List.mem_cons_self).append more
  · exact (root stem (List.mem_cons_of_mem _ mesh)).append more
  · exact (stemmed.append "_").append more

theorem stemmed_numbered (n : Nat) : Stemmed (numbered "vec" n) := by
  have root : Stemmed ("vec" ++ "_") := by decide
  exact root.append (toString n)

/-- Vectors of four parts have names of their own, and no definition samples under other names than the options'. -/
structure Labelled (table : NameTable) (options : Options) : Prop where
  quad : ∀ {name code term}, table.expression? name = some code → Term.read? code = some term → term.isQuad = true →
    Stemmed name
  sample : ∀ {name code term}, table.expression? name = some code → Term.read? code = some term → term.resources ≠ [] →
    code = (Code.sample options.textureName.display options.samplerName.display).render

theorem labelled_empty (options : Options) : empty.Labelled options :=
  ⟨fun recorded => (by cases recorded), fun recorded => (by cases recorded)⟩

theorem Labelled.declare {table : NameTable} {options : Options} (labelled : table.Labelled options) {name : String}
    {code : Code} (proper : code.Proper) (quad : code.term.isQuad = true → Stemmed (Identifier.sanitize name))
    (sample : code.term.resources ≠ [] → code = .sample options.textureName.display options.samplerName.display) :
    (table.declare name code.render).2.Labelled options := by
  constructor
  · intro other text term recorded read isQuad
    rcases expression?_declare recorded with old | ⟨rfl, rfl⟩
    · exact labelled.quad old read isQuad
    · rw [proper.read_render] at read
      cases read
      obtain ⟨k, same, _⟩ := table.declare_issued name code.render
      rw [same]
      exact (quad isQuad).candidate k
  · intro other text term recorded read samples
    rcases expression?_declare recorded with old | ⟨rfl, rfl⟩
    · exact labelled.sample old read samples
    · rw [proper.read_render] at read
      cases read
      rw [sample samples]

theorem perform_labelled {table : NameTable} {options : Options} (labelled : table.Labelled options) {e : Expression}
    {operations : List Operation} (writable : Writable e operations)
    (samples : ∀ texture sampler, Operation.sample texture sampler ∈ operations →
      texture = options.textureName.display ∧ sampler = options.samplerName.display) :
    (table.perform e operations).2.Labelled options := by
  induction operations generalizing table e with
  | nil => exact labelled
  | cons operation rest ih =>
    obtain ⟨proper, next⟩ := writable
    have stepped : (table.declare (operation.name e) (operation.code e).render).2.Labelled options := by
      apply labelled.declare proper
      · simp [operation.isQuad_code e]
      · cases operation with
        | sample texture sampler =>
          obtain ⟨rfl, rfl⟩ := samples texture sampler List.mem_cons_self
          exact fun _ => rfl
        | lane letters => simp [Operation.code, Code.term, Term.resources]
        | component letters => simp [Operation.code, Code.term, Term.resources]
        | extend pad => simp [Operation.code]
        | saturate => simp [Operation.code, Code.term, Term.resources]
    exact ih stepped (next _ (table.declare_word _ _)) fun texture sampler member =>
      samples texture sampler (List.mem_cons_of_mem _ member)

end NameTable

namespace NodeScope

open NameTable

variable {scope : NodeScope} {names : NameTable}

theorem recipe_samples {start : Expression} {operations : List Operation}
    (recipe : scope.recipe? = some (start, operations)) (texture sampler : String)
    (member : Operation.sample texture sampler ∈ operations) :
    texture = scope.options.textureName.display ∧ sampler = scope.options.samplerName.display := by
  have part (whole output : String) : Operation.sample texture sampler ∉ recipe?.part whole output := by
    unfold recipe?.part
    split <;> simp
  unfold recipe? at recipe
  cases kind : scope.node.kind with
  | texture =>
    simp only [kind, Option.map_eq_some_iff] at recipe
    obtain ⟨lane, _, same⟩ := recipe
    cases same
    simpa [part] using member
  | normal | uv | position =>
    simp only [kind, Option.map_eq_some_iff] at recipe
    obtain ⟨lane, _, same⟩ := recipe
    cases same
    exact absurd member (part _ _)
  | extend | component =>
    simp only [kind, Option.bind_eq_bind, Option.bind_eq_some_iff, pure, Option.some.injEq] at recipe
    obtain ⟨_, _, _, _, same⟩ := recipe
    cases same
    simp at member
  | saturate | print | preview =>
    simp only [kind, Option.map_eq_some_iff] at recipe
    obtain ⟨_, _, same⟩ := recipe
    cases same
    simp at member
  | vector => simp [kind] at recipe

theorem Derives.labelled {result : Expression × NameTable} (derived : scope.Derives names result)
    (labelled : names.Labelled scope.options) (valid : scope.options.Valid) (accepted : scope.node.Accepted)
    (outputs : ∀ lane, scope.output = some lane → lane ∈ scope.node.kind.outputs)
    (inputs : ∀ entry ∈ scope.inputs, entry.2.operand.Proper) : result.2.Labelled scope.options := by
  have given {socket : String} {e : Expression} (input : scope.inputs.lookup socket = some e) : e.operand.Proper :=
    inputs (socket, e) (mem_of_lookup input)
  by_cases vector : scope.node.kind = .vector
  · obtain ⟨x, y, z, w, first, second, third, fourth, rfl⟩ := derived.vector_eq vector
    have proper := (vector_writes (given first) (given second) (given third) (given fourth) names).proper
    have next : (names.next "vec").2.Labelled scope.options := ⟨labelled.quad, labelled.sample⟩
    obtain ⟨n, named, _⟩ := names.next_free "vec"
    refine next.declare proper (fun _ => ?_) (by simp [Code.term, Term.resources, laneOf])
    rw [named, sanitize_vec, sanitize_numbered sanitize_vec, if_neg (by decide)]
    exact stemmed_numbered n
  · obtain ⟨start, operations, recipe, rfl⟩ := derived.recipe vector
    exact perform_labelled labelled (recipe_writable recipe valid accepted outputs inputs) (recipe_samples recipe)

end NodeScope

theorem Scene.settles_labelled {σ : Type} {scene : Scene σ} {options : Options} (valid : options.Valid)
    {record later : Record} (settles : scene.Settles Node.Accepted options record later)
    (before : record.Typed options ∧ record.names.Labelled options) :
    later.Typed options ∧ later.names.Labelled options := by
  obtain ⟨typed, labelled⟩ := before
  refine ⟨settles_typed valid settles typed, ?_⟩
  obtain ⟨types, names, entries⟩ := typed
  cases settles with
  | output accepted declared fed derived =>
    exact derived.labelled labelled valid accepted (Node.output_mem declared) fun entry member =>
      names.operand_proper (fed.typed entries entry member)

namespace Shading.Term

theorem stem_known (term : Term) : term.stem = "zero" ∨ term.stem ∈ term.mentions := by
  unfold stem
  cases term.mentions with
  | nil => exact .inl rfl
  | cons name names => exact .inr List.mem_cons_self

theorem suggestion_stemmed {term : Term} (unsampled : term.resources = [])
    (known : ∀ name ∈ term.mentions, name ∈ NameTable.meshNames ∨ NameTable.Stemmed name) :
    NameTable.Stemmed term.suggestion := by
  have made (operand : Term) (part : operand.mentions ⊆ term.mentions) (more : String) :
      NameTable.Stemmed (operand.stem ++ "_" ++ more) := by
    apply NameTable.stemmed_suggestion
    exact operand.stem_known.imp_right fun member => known _ (part member)
  have extended : NameTable.Stemmed (term.stem ++ "_extend") := by
    have whole := made term (List.Subset.refl _) "extend"
    rwa [String.append_assoc] at whole
  cases term with
  | sample texture sampler operand => cases unsampled
  | swizzle operand letters => exact made operand (List.Subset.refl _) letters
  | clamp operand low high =>
    have whole := made operand (by simp [mentions]) "saturate"
    rwa [String.append_assoc] at whole
  | _ => exact extended

end Shading.Term

namespace NameTable

variable {names : NameTable} {options : Options}

theorem stemmed_of_ordered (regular : names.Regular) (labelled : names.Labelled options) {known : List String}
    {body : List Binding} (ordered : Ordered known body)
    (recorded : ∀ binding ∈ body, names.expression? binding.name = some binding.code)
    (unsampled : ∀ binding ∈ body, ∀ term, binding.Reads term → term.resources = [])
    (start : ∀ name ∈ known, name ∈ meshNames ∨ Stemmed name) : ∀ binding ∈ body, Stemmed binding.name := by
  induction body generalizing known with
  | nil => simp
  | cons first body ih =>
    obtain ⟨⟨term, reads, mentions⟩, rest⟩ := ordered
    have own := recorded first List.mem_cons_self
    have head : Stemmed first.name := by
      by_cases quad : term.isQuad = true
      · exact labelled.quad own reads.code_eq quad
      · have suggested := Term.suggestion_stemmed (unsampled first List.mem_cons_self term reads) fun name member =>
          start name (mentions name member)
        obtain ⟨k, same, _⟩ := regular _ _ term own reads.code_eq (by simpa using quad)
        rw [same]
        exact suggested.sanitize.candidate k
    intro binding member
    rcases List.mem_cons.mp member with rfl | member
    · exact head
    · refine ih rest (fun other inside => recorded other (List.mem_cons_of_mem _ inside))
        (fun other inside => unsampled other (List.mem_cons_of_mem _ inside)) ?_ binding member
      intro name bound
      rcases List.mem_cons.mp bound with rfl | bound
      · exact .inr head
      · exact start name bound

theorem Labelled.sample_term (labelled : names.Labelled options) (valid : options.Valid) {binding : Binding}
    (recorded : names.expression? binding.name = some binding.code) {term : Term} (reads : binding.Reads term)
    (samples : term.resources ≠ []) :
    binding.code = (Code.sample options.textureName.display options.samplerName.display).render ∧
      term = .sample options.textureName.display options.samplerName.display (.name "uv") := by
  have code := labelled.sample recorded reads.code_eq samples
  have proper : (Code.sample options.textureName.display options.samplerName.display).Proper :=
    ⟨Options.Valid.display valid.textureName, Options.Valid.display valid.samplerName⟩
  have read := reads.code_eq
  rw [code, proper.read_render] at read
  cases read
  exact ⟨code, rfl⟩

/-- There is one statement that samples. The names bound before it begin like those of values that are not made from the
    texture. -/
theorem Backs.stemmed {body : List Binding} {statements : List Value} (backed : names.Backs body statements)
    (regular : names.Regular) (labelled : names.Labelled options) (valid : options.Valid) {front back : List Binding}
    {binding : Binding} (split : body = front ++ binding :: back) {term : Term} (reads : binding.Reads term)
    (samples : term.resources ≠ []) : ∀ earlier ∈ front, Stemmed earlier.name := by
  subst split
  have recorded (other : Binding) (member : other ∈ front ++ binding :: back) := backed.recorded other member
  have own := recorded binding (by simp)
  obtain ⟨code, sample⟩ := labelled.sample_term valid own reads samples
  have issued := regular _ _ term own reads.code_eq (by rw [sample]; rfl)
  refine stemmed_of_ordered regular labelled (ordered_append.mp backed.ordered).1
    (fun other member => recorded other (List.mem_append_left _ member)) ?_ (fun name mesh => .inl mesh)
  intro other member otherTerm otherReads
  by_cases none : otherTerm.resources = []
  · exact none
  · have otherOwn := recorded other (List.mem_append_left _ member)
    obtain ⟨otherCode, otherSample⟩ := labelled.sample_term valid otherOwn otherReads none
    have otherIssued := regular _ _ otherTerm otherOwn otherReads.code_eq (by rw [otherSample]; rfl)
    rw [otherSample, otherCode] at otherIssued
    rw [sample, code] at issued
    have distinct := backed.names_distinct
    rw [List.map_append, List.map_cons, List.nodup_append] at distinct
    exact absurd (otherIssued.unique issued)
      (distinct.2.2 _ (List.mem_map_of_mem member) _ List.mem_cons_self)

end NameTable

namespace Scene

variable {σ : Type} {scene : Scene σ} {options : Options} {root : Root}

theorem compile_source {asked : Option String} {world : σ} {result : CompileResult}
    (ok : ((scene.compile options root asked).outcome world).1 = .ok result) :
    ∃ node ∈ scene.graph.nodes, ∃ start e source, (scene.resolveFresh options node asked start).1 = .ok e ∧
      Source.render scene.host.limits.digits options e = .ok source ∧ result.source = some source := by
  cases found : scene.graph.rootNode root with
  | error cause =>
    rw [compile_missing found] at ok
    cases ok
  | ok node =>
    obtain ⟨start, _, failed, done⟩ := scene.compile_cases options found asked world
    refine ⟨node, Graph.mem_of_rootNode found, start, ?_⟩
    cases resolved : (scene.resolveFresh options node asked start).1 with
    | error cause =>
      rw [failed cause resolved] at ok
      cases ok
    | ok e =>
      rw [done e resolved] at ok
      cases rendered : Source.render scene.host.limits.digits options e with
      | error cause =>
        rw [rendered] at ok
        cases ok
      | ok source =>
        rw [rendered] at ok
        cases ok
        exact ⟨e, source, rfl, rendered, rfl⟩

/-- In what a compile writes, every sample is of the texture of the options with their sampler, and of these two names
    only a reserved one can be taken where it is used. -/
theorem compile_captures (built : scene.graph.Built) (valid : options.Valid) (asked : Option String) (world : σ)
    {result : CompileResult} (ok : ((scene.compile options root asked).outcome world).1 = .ok result) :
    ∃ e source, result.source = some source ∧ Source.render scene.host.limits.digits options e = .ok source ∧
      (∀ statement ∈ e.statements, ∃ text name term, statement = .text text ∧
        readStatement? text = some (name, term) ∧ (term.resources = [] ∨
          term = .sample options.textureName.display options.samplerName.display (.name "uv"))) ∧
      ∀ name ∈ e.captured, name ∈ options.resourceNames ∧ NameTable.Reserved name := by
  obtain ⟨node, inside, start, e, source, resolved, rendered, written⟩ := compile_source ok
  refine ⟨e, source, written, rendered, ?_⟩
  have sound := built.sound
  have accounted := ((History.start start).resolve scene.host.limits.nesting inside asked).accounted sound valid
  have resolves := scene.resolve_resolves sound.accepted scene.host.limits.nesting (sound.accepted node inside) asked
    ⟨.fresh options, [], start⟩
  obtain ⟨_, labelled⟩ := resolves.advances.progress.preserves
    (fun record => record.Typed options ∧ record.names.Labelled options) (settles_labelled valid)
    ⟨Record.typed_empty options, NameTable.labelled_empty options⟩
  obtain ⟨_, _, kept⟩ := resolves.kept e resolved
  obtain ⟨types, _, entries⟩ := accounted.typed
  obtain ⟨⟨body, backed⟩, _⟩ := entries _ kept
  have reading := backed.ordered.written
  constructor
  · rw [backed.statements]
    intro statement member
    obtain ⟨binding, owned, rfl⟩ := List.mem_map.mp member
    obtain ⟨term, reads⟩ := reading binding owned
    refine ⟨_, _, term, rfl, reads.statement_eq, ?_⟩
    by_cases samples : term.resources = []
    · exact .inl samples
    · exact .inr (labelled.sample_term valid (backed.recorded binding owned) reads samples).2
  · intro name captured
    rw [Expression.captured, backed.statements] at captured
    obtain ⟨front, binding, back, term, split, reads, resource, taken⟩ := mem_capturedIn reading captured
    have samples : term.resources ≠ [] := List.ne_nil_of_mem resource
    have own := backed.recorded binding (by simp [split])
    constructor
    · rw [(labelled.sample_term valid own reads samples).2] at resource
      simpa [Term.resources, Options.resourceNames] using resource
    · rcases taken with mesh | bound
      · exact .inl mesh
      · obtain ⟨earlier, member, rfl⟩ := List.mem_map.mp bound
        exact .inr (backed.stemmed accounted.regular labelled valid split reads samples earlier member)

end Scene

def Graph.crowded : Graph where
  key := 0
  name := standardName
  nodes := [⟨⟨0, 0⟩, .uv, "uv", []⟩, ⟨⟨0, 1⟩, .normal, "normal", []⟩, ⟨⟨0, 2⟩, .position, "position", []⟩,
    ⟨⟨0, 3⟩, .component, "nothing", []⟩, ⟨⟨0, 4⟩, .vector, "lanes", []⟩, ⟨⟨0, 5⟩, .texture, "paint", []⟩,
    ⟨⟨0, 6⟩, .vector, "last", []⟩]
  links := [⟨⟨0, 0⟩, "x", ⟨0, 4⟩, "x"⟩, ⟨⟨0, 1⟩, "x", ⟨0, 4⟩, "y"⟩, ⟨⟨0, 2⟩, "x", ⟨0, 4⟩, "z"⟩,
    ⟨⟨0, 3⟩, "x", ⟨0, 4⟩, "w"⟩, ⟨⟨0, 4⟩, "vec", ⟨0, 6⟩, "x"⟩, ⟨⟨0, 5⟩, "color", ⟨0, 6⟩, "y"⟩]
  issued := 7

theorem Graph.crowded_built : crowded.Built := by
  have uv := (Built.empty 0 standardName).add .uv "uv" rfl (by decide) (by decide)
  have normal := uv.add .normal "normal" rfl (by decide) (by decide)
  have position := normal.add .position "position" rfl (by decide) (by decide)
  have nothing := position.add .component "nothing" rfl (by decide) (by decide)
  have lanes := nothing.add .vector "lanes" rfl (by decide) (by decide)
  have paint := lanes.add .texture "paint" rfl (by decide) (by decide)
  have last := paint.add .vector "last" rfl (by decide) (by decide)
  have x := last.join ⟨⟨0, 0⟩, .uv, "uv", []⟩ "x" ⟨⟨0, 4⟩, .vector, "lanes", []⟩ "x" rfl
  have y := x.join ⟨⟨0, 1⟩, .normal, "normal", []⟩ "x" ⟨⟨0, 4⟩, .vector, "lanes", []⟩ "y" rfl
  have z := y.join ⟨⟨0, 2⟩, .position, "position", []⟩ "x" ⟨⟨0, 4⟩, .vector, "lanes", []⟩ "z" rfl
  have w := z.join ⟨⟨0, 3⟩, .component, "nothing", []⟩ "x" ⟨⟨0, 4⟩, .vector, "lanes", []⟩ "w" rfl
  have first := w.join ⟨⟨0, 4⟩, .vector, "lanes", []⟩ "vec" ⟨⟨0, 6⟩, .vector, "last", []⟩ "x" rfl
  exact first.join ⟨⟨0, 5⟩, .texture, "paint", []⟩ "color" ⟨⟨0, 6⟩, .vector, "last", []⟩ "y" rfl

theorem Scene.compile_captures_crowded :
    let scene : Scene (List Emission) := ⟨.shipped, .crowded, .recorder .standard⟩
    scene.graph.Built ∧ Options.standard.Valid ∧ ∃ result e source,
      ((scene.compile .standard (.named "last") none).outcome []).1 = .ok result ∧ result.source = some source ∧
        Source.render scene.host.limits.digits .standard e = .ok source ∧ e.captured = [] := by
  intro scene
  have compiled : ((scene.compile .standard (.named "last") none).outcome []).1.toOption.isSome = true := by
    decide +kernel
  have free : ∀ name ∈ Options.standard.resourceNames, ¬NameTable.Reserved name := by decide
  refine ⟨Graph.crowded_built, Options.standard_valid, ?_⟩
  cases ok : ((scene.compile .standard (.named "last") none).outcome []).1 with
  | error cause =>
    rw [ok] at compiled
    cases compiled
  | ok result =>
    obtain ⟨e, source, written, rendered, _, captures⟩ :=
      compile_captures Graph.crowded_built Options.standard_valid none [] ok
    refine ⟨result, e, source, rfl, written, rendered, ?_⟩
    apply List.eq_nil_iff_forall_not_mem.mpr
    intro name member
    exact free name (captures name member).1 (captures name member).2

def Options.renamed (names : String × String) : Options :=
  { Options.standard with textureName := .text names.1, samplerName := .text names.2 }

def Options.takenNames : List (String × String) :=
  [("uv_x", "world_normal_x"), ("world_position_x", "zero_x"), ("vec_0", "uv")]

theorem Options.renamed_valid {names : String × String} (taken : names ∈ takenNames) : (renamed names).Valid := by
  have named : ∀ names ∈ takenNames, name? (.text names.1) = some names.1 ∧ name? (.text names.2) = some names.2 ∧
      names.1 ≠ names.2 := by decide +kernel
  obtain ⟨texture, sampler, different⟩ := named names taken
  refine ⟨rfl, rfl, rfl, standard_valid.bindings, standard_valid.alpha, ?_, ?_, ?_⟩
  · exact Option.isSome_of_eq_some texture
  · exact Option.isSome_of_eq_some sampler
  · show name? (.text names.1) ≠ name? (.text names.2)
    rw [texture, sampler]
    exact fun same => different (Option.some.inj same)

/-- Valid options whose names for the texture and for its sampler are both taken where they are used. -/
theorem Scene.compile_captures_taken :
    let scene : Scene (List Emission) := ⟨.shipped, .crowded, .recorder .standard⟩
    scene.graph.Built ∧ ∀ names ∈ Options.takenNames, (Options.renamed names).Valid ∧ ∃ result e source,
      ((scene.compile (.renamed names) (.named "last") none).outcome []).1 = .ok result ∧
        result.source = some source ∧ Source.render scene.host.limits.digits (.renamed names) e = .ok source ∧
        e.captured = [names.1, names.2] := by
  intro scene
  let last : Node := ⟨⟨0, 6⟩, .vector, "last", []⟩
  have found : scene.graph.rootNode (.named "last") = .ok last := rfl
  have inside := Graph.mem_of_rootNode found
  have captured : ∀ names ∈ Options.takenNames,
      ((scene.resolveFresh (.renamed names) last none []).1.toOption.map Expression.captured) =
        some [names.1, names.2] := by decide +kernel
  have short : ∀ names ∈ Options.takenNames, (Options.renamed names).Fits scene.host.limits.digits := by decide +kernel
  refine ⟨Graph.crowded_built, ?_⟩
  intro names taken
  have run := captured names taken
  have valid := Options.renamed_valid taken
  have compiled : (scene.compile (.renamed names) (.named "last") none).outcome [] = scene.conclude (.renamed names)
      last none (scene.resolveFresh (.renamed names) last none []) := compile_found found []
  rcases resolved : scene.resolveFresh (.renamed names) last none [] with ⟨cause | e, later⟩
  · rw [resolved] at run
    cases run
  · obtain ⟨source, rendered⟩ : ∃ source, Source.render scene.host.limits.digits (.renamed names) e = .ok source :=
      ((resolveFresh_render Graph.crowded_built valid inside (by rw [resolved]) _).resolve_right
        fun refused => refused.1 (short names taken)).2
    rw [resolved] at run compiled
    simp only [conclude, rendered] at compiled
    rw [compiled]
    exact ⟨valid, _, e, source, rfl, rfl, rendered, Option.some.inj run⟩

end ShaderGraph
