import ShaderGraph.Proofs.Sharing
import ShaderGraph.Proofs.SingleAssignment
import ShaderGraph.Proofs.Shading.Renaming

namespace ShaderGraph

namespace Shading

def Consumed (results : List String) (body : List Binding) : Prop :=
  ∀ binding ∈ body, binding.name ∈ results ∨
    ∃ user ∈ body, ∃ term, user.Reads term ∧ binding.name ∈ term.mentions

theorem Consumed.unite {left right : List String} {own other : List Binding} (first : Consumed left own)
    (second : Consumed right other) : Consumed (left ++ right) (unite own other) := by
  intro binding member
  rcases mem_unite.mp member with owned | taken
  · rcases first binding owned with result | ⟨user, inside, mentioned⟩
    · exact .inl (List.mem_append_left _ result)
    · exact .inr ⟨user, mem_unite.mpr (.inl inside), mentioned⟩
  · rcases second binding taken with result | ⟨user, inside, mentioned⟩
    · exact .inl (List.mem_append_right _ result)
    · exact .inr ⟨user, mem_unite.mpr (.inr inside), mentioned⟩

theorem Consumed.append {results : List String} {body : List Binding} (consumed : Consumed results body) {last : Binding}
    {term : Term} (reads : last.Reads term) (mentions : results ⊆ term.mentions) :
    Consumed [last.name] (body ++ [last]) := by
  intro binding member
  rcases List.mem_append.mp member with inside | own
  · right
    rcases consumed binding inside with result | ⟨user, among, mentioned⟩
    · exact ⟨last, by simp, term, reads, mentions result⟩
    · exact ⟨user, List.mem_append_left _ among, mentioned⟩
  · left
    rw [List.mem_singleton.mp own]
    exact List.mem_cons_self

theorem Consumed.later {results : List String} {front back : List Binding} {binding : Binding}
    (consumed : Consumed results (front ++ binding :: back)) {known : List String}
    (ordered : Ordered known (front ++ binding :: back)) (distinct : ((front ++ binding :: back).map Binding.name).Nodup)
    (unknown : binding.name ∉ known) (other : binding.name ∉ results) :
    ∃ user ∈ back, ∃ term, user.Reads term ∧ binding.name ∈ term.mentions := by
  have split : front ++ binding :: back = (front ++ [binding]) ++ back := by simp
  obtain ⟨user, member, term, reads, mentioned⟩ := (consumed binding (by simp)).resolve_left other
  rw [split] at ordered distinct member
  rw [List.map_append] at distinct
  rcases List.mem_append.mp member with before | after
  · exact absurd mentioned ((ordered_append.mp ordered).1.last_unmentioned (List.nodup_append.mp distinct).1 unknown before
      reads)
  · exact ⟨user, after, term, reads, mentioned⟩

def Serves (results : List String) (statements : List Value) : Prop :=
  ∃ body, statements = texts body ∧ (∀ binding ∈ body, Word binding.name) ∧ Consumed results body

theorem serves_nil (results : List String) : Serves results [] := ⟨[], rfl, by simp, by simp [Consumed]⟩

theorem Serves.merge {left right : List String} {own other : List Value} (first : Serves left own)
    (second : Serves right other) : Serves (left ++ right) (merge own other) := by
  obtain ⟨body, rfl, words, consumed⟩ := first
  obtain ⟨more, rfl, otherWords, alsoConsumed⟩ := second
  refine ⟨unite body more, merge_texts words otherWords, ?_, consumed.unite alsoConsumed⟩
  intro binding member
  exact (mem_unite.mp member).elim (words binding) (otherWords binding)

/-- What the result of a body is made of: the names that it mentions, and those that their definitions mention. -/
inductive Contributes (body : List Binding) (result : Term) : String → Prop
  | result {name : String} (mentioned : name ∈ result.mentions) : Contributes body result name
  | definition {user : Binding} {term : Term} {name : String} (contributes : Contributes body result user.name)
      (inside : user ∈ body) (read : Term.read? user.code = some term) (mentioned : name ∈ term.mentions) :
      Contributes body result name

end Shading

open Shading

/-- A result without dead statements. A result that binds nothing, or that is a variable of the mesh, has no statements.
    Otherwise the last statement binds the result, a later statement mentions what any other one binds, and so each of
    them is part of the colour. -/
structure Expression.Live (e : Expression) (body : List Binding) : Prop where
  statements : e.statements = texts body
  unbound : e.var ∈ "" :: NameTable.meshNames → body = []
  last : e.var ∉ "" :: NameTable.meshNames → ∃ front last, body = front ++ [last] ∧ last.name = e.var
  used : ∀ front binding back, body = front ++ binding :: back → back ≠ [] →
    ∃ user ∈ back, ∃ term, Term.read? user.code = some term ∧ binding.name ∈ term.mentions
  contributes : ∀ alpha, ∀ binding ∈ body, Contributes body (e.color alpha).term binding.name

theorem Expression.mentions_color (e : Expression) (alpha : Binary64) :
    (e.color alpha).term.mentions = e.operand.term.mentions := by
  simp [color, Code.term, Term.mentions]

theorem Expression.contributes {e : Expression} {body : List Binding}
    (last : ∀ front binding, body = front ++ [binding] → binding.name ∈ e.operand.term.mentions)
    (used : ∀ front binding back, body = front ++ binding :: back → back ≠ [] →
      ∃ user ∈ back, ∃ term, Term.read? user.code = some term ∧ binding.name ∈ term.mentions)
    (alpha : Binary64) {binding : Binding} (member : binding ∈ body) :
    Contributes body (e.color alpha).term binding.name := by
  -- By the number of statements that come after: the user of a statement has fewer of them.
  have each (n : Nat) : ∀ front binding back, back.length = n → body = front ++ binding :: back →
      Contributes body (e.color alpha).term binding.name := by
    induction n using Nat.strongRecOn with
    | ind n ih =>
      intro front binding back size split
      cases back with
      | nil =>
        apply Contributes.result
        rw [mentions_color]
        exact last front binding split
      | cons next rest =>
        obtain ⟨user, inside, term, read, mentioned⟩ := used front binding (next :: rest) split (by simp)
        obtain ⟨between, after, same⟩ := List.append_of_mem inside
        have shorter : after.length < n := by
          have sizes := congrArg List.length same
          simp only [List.length_append, List.length_cons] at sizes size
          omega
        have whole : body = (front ++ binding :: between) ++ user :: after := by
          rw [split, same, List.append_assoc, List.cons_append]
        exact .definition (ih _ shorter _ user after rfl whole) (by simp [whole]) read mentioned
  obtain ⟨front, back, split⟩ := List.append_of_mem member
  exact each _ front binding back rfl split

def Expression.Concise (e : Expression) : Prop := Serves e.operand.term.mentions e.statements

theorem Expression.Backed.live {e : Expression} {options : Options} {names : NameTable} {types : Scope Shape}
    {body : List Binding} (backed : e.Backed names body) (typed : names.Typed options types) (concise : e.Concise) :
    e.Live body := by
  have words := backed.ordered.words
  have fresh (binding : Binding) (member : binding ∈ body) : binding.name ∉ NameTable.meshNames :=
    typed.not_mesh (NameTable.mem_body_of_expression? (backed.recorded binding member))
  have consumed : Consumed e.operand.term.mentions body := by
    obtain ⟨same, statements, otherWords, consumed⟩ := concise
    rw [backed.statements] at statements
    rwa [texts_injective words otherWords statements]
  rcases backed.result with ⟨known, none⟩ | ⟨start, final, ends, named⟩
  · subst none
    exact ⟨backed.statements, fun _ => rfl, fun bound => absurd known bound, by simp, by simp⟩
  · have inside : final ∈ body := by simp [ends]
    have bound : e.var ≠ "" := named ▸ (words final inside).ne_empty
    have unreserved : e.var ∉ "" :: NameTable.meshNames := by
      rw [List.mem_cons, not_or, ← named]
      exact ⟨(words final inside).ne_empty, fresh final inside⟩
    have mentions : e.operand.term.mentions = [final.name] := by rw [e.mentions_operand, if_neg bound, named]
    have used (front : List Binding) (binding : Binding) (back : List Binding)
        (split : body = front ++ binding :: back) (more : back ≠ []) :
        ∃ user ∈ back, ∃ term, Term.read? user.code = some term ∧ binding.name ∈ term.mentions := by
      have distinct := backed.names_distinct
      have ordered := backed.ordered
      have later : final ∈ back := by
        have last := congrArg List.getLast? (split.symm.trans ends)
        rw [List.getLast?_append_cons, List.getLast?_cons_of_ne_nil more, List.getLast?_concat] at last
        exact List.mem_of_getLast? last
      have unlike : binding.name ≠ final.name := by
        rw [split, List.map_append, List.map_cons, List.nodup_append] at distinct
        intro same
        exact (List.nodup_cons.mp distinct.2.1).1 (same ▸ List.mem_map_of_mem later)
      subst split
      obtain ⟨user, after, term, reads, mentioned⟩ :=
        consumed.later ordered distinct (fresh binding (by simp)) (by simpa [mentions] using unlike)
      exact ⟨user, after, term, reads.code_eq, mentioned⟩
    refine ⟨backed.statements, fun reserved => absurd reserved unreserved, fun _ => ⟨start, final, ends, named⟩, used, ?_⟩
    intro alpha binding member
    refine Expression.contributes ?_ used alpha member
    intro front binding split
    have last := (List.append_inj' (split.symm.trans ends) rfl).2
    rw [mentions, (List.cons.inj last).1]
    exact List.mem_cons_self

namespace NodeScope

open NameTable

variable {scope : NodeScope} {names : NameTable}

theorem assigned_concise {e : Expression} {results : List String} (serves : Serves results e.statements)
    (table : NameTable) (name : String) {code : Code} (proper : code.Proper) (reads : results ⊆ code.term.mentions)
    (shape : Shape) : (e.assigned table name code shape).1.Concise := by
  obtain ⟨body, statements, words, consumed⟩ := serves
  have word := table.declare_word name code.render
  let last : Binding := ⟨(table.declare name code.render).1, code.render⟩
  have bound : (e.assigned table name code shape).1.operand.term.mentions = [last.name] := by
    rw [Expression.mentions_operand]
    exact if_neg word.ne_empty
  rw [Expression.Concise, bound]
  refine ⟨body ++ [last], ?_, ?_, consumed.append ⟨word, code, proper, rfl, rfl⟩ reads⟩
  · simp [Expression.assigned, Expression.push, Expression.bind, statements, texts, Binding.text, last]
  · intro binding member
    rcases List.mem_append.mp member with inside | own
    · exact words binding inside
    · rw [List.mem_singleton.mp own]
      exact word

theorem gathered_serves {x y z w : Expression} (hx : x.Concise) (hy : y.Concise) (hz : z.Concise) (hw : w.Concise) :
    Serves (Code.compose (laneOf x) (laneOf y) (laneOf z) (laneOf w)).term.mentions (gathered x y z w).statements := by
  simp only [Code.term, Term.mentions, laneOf, Shape.mentions_convert]
  exact ((((serves_nil []).merge hx).merge hy).merge hz).merge hw

theorem Derives.concise {result : Expression × NameTable} (derived : scope.Derives names result)
    (valid : scope.options.Valid) (accepted : scope.node.Accepted)
    (outputs : ∀ lane, scope.output = some lane → lane ∈ scope.node.kind.outputs)
    (inputs : ∀ entry ∈ scope.inputs, entry.2.operand.Proper ∧ entry.2.Concise) : result.1.Concise := by
  have given {socket : String} {e : Expression} (input : scope.inputs.lookup socket = some e) :
      e.operand.Proper ∧ e.Concise := inputs (socket, e) (mem_of_lookup input)
  have sampled : (scope.sampled names).1.Concise :=
    assigned_concise (serves_nil []) names _ (sample_writes valid).proper (by simp) .vec4
  cases derived with
  | mesh => exact serves_nil _
  | meshLane kind output notWhole =>
    have named := (NodeKind.mesh?_lane kind (outputs _ output) notWhole).1
    have word := meshNames_word (meshTypes_isSome (Option.isSome_of_eq_some (NodeKind.mesh?_known kind)))
    have proper : (Code.var _).Proper := word
    exact assigned_concise (serves_nil []) names _ (lane_writes proper trivial named "").proper (by simp) .float
  | color => exact sampled
  | channel kind output notWhole =>
    have named := NodeKind.texture_lane (kind ▸ outputs _ output) notWhole
    have word : Word (scope.sampled names).1.var := names.declare_word _ _
    have proper : (Code.var _).Proper := word
    refine assigned_concise sampled _ _ (lane_writes proper trivial named "").proper ?_ .float
    rw [Expression.mentions_operand, if_neg word.ne_empty]
    exact List.Subset.refl _
  | extend kind input amount =>
    obtain ⟨x, finite, number⟩ := accepted.amount kind
    rw [number] at amount
    cases amount
    exact assigned_concise (given input).2 names _ (extend_writes (given input).1 finite).proper (by simp) _
  | saturate kind input =>
    exact assigned_concise (given input).2 names _ (saturate_writes (given input).1).proper
      (by simp [Code.term, Term.mentions]) _
  | component kind input output =>
    have named := NodeKind.component_lane (kind ▸ outputs _ output)
    exact assigned_concise (given input).2 names _ (component_writes (given input).1 named).proper
      (by simp [Code.term, Term.mentions]) _
  | vector kind first second third fourth =>
    -- A use and its definition can come from two inputs; it is enough that both are in the union.
    exact assigned_concise
      (gathered_serves (given first).2 (given second).2 (given third).2 (given fourth).2) (names.next "vec").2 _
      (vector_writes (given first).1 (given second).1 (given third).1 (given fourth).1 names).proper
      (List.Subset.refl _) .vec4
  | relay kind input => exact (given input).2

end NodeScope

theorem Scene.settles_concise {σ : Type} (scene : Scene σ) {options : Options} (valid : options.Valid)
    {record later : Record} (settles : scene.Settles Node.Accepted options record later)
    (before : record.Typed options ∧ ∀ entry ∈ record.memo, entry.2.Concise) :
    later.Typed options ∧ ∀ entry ∈ later.memo, entry.2.Concise := by
  obtain ⟨typed, concise⟩ := before
  refine ⟨settles_typed valid settles typed, ?_⟩
  obtain ⟨types, names, entries⟩ := typed
  cases settles with
  | output accepted declared fed derived =>
    intro entry member
    rcases List.mem_cons.mp member with rfl | old
    · refine derived.concise valid accepted (Node.output_mem declared) ?_
      intro ⟨name, e⟩ given
      refine ⟨names.operand_proper (fed.typed entries _ given), ?_⟩
      obtain ⟨_, _, _, feed⟩ := fed.of_mem given
      cases feed with
      | linked _ _ _ known => exact concise _ known
      | zero => exact serves_nil _
    · exact concise entry old

namespace Session

variable {σ : Type} {options : Options} {graph : Graph} {run : Run σ}

/-- Whatever was resolved and edited before, a result has no dead statements. -/
theorem statements_live (session : Session options graph run) (valid : options.Valid) (catalog : Catalog)
    (host : Host σ) (depth : Nat) {node : Node} (accepted : node.Accepted) (asked : Option String) (world : σ)
    {e : Expression}
    (ok : ((Scene.resolve ⟨catalog, graph, host⟩ depth node asked).outcome { run with world := world }).1 = .ok e) :
    ∃ body, e.Live body := by
  let scene : Scene σ := ⟨catalog, graph, host⟩
  have resolves := scene.resolve_resolves session.built.sound.accepted depth accepted asked { run with world := world }
  obtain ⟨socket, _, kept⟩ := resolves.kept e ok
  have later := session.evaluate catalog host depth node accepted asked world
  obtain ⟨_, typed, concise⟩ := later.preserves
    (fun record => record.Typed options ∧ ∀ entry ∈ record.memo, entry.2.Concise)
    ⟨Record.typed_empty options, by simp⟩ (fun scene => scene.settles_concise valid)
  obtain ⟨types, names, entries⟩ := typed
  obtain ⟨⟨body, backed⟩, _⟩ := entries _ kept
  exact ⟨body, backed.live names (concise _ kept)⟩

theorem statements_live_tinted :
    let run : Run (List Emission) := ⟨.fresh .standard, [], []⟩
    let mix : Node := ⟨⟨0, 2⟩, .vector, "mix", []⟩
    ∃ e, Session .standard .tinted run ∧ Options.standard.Valid ∧ mix.Accepted ∧
      ((Scene.resolve ⟨.shipped, .tinted, .recorder .standard⟩ 9 mix none).outcome run).1 = .ok e ∧
      boundNames e.statements =
        ["texture_color", "texture_color_r", "texture_color_r_saturate", "texture_color_g", "vec_0"] ∧
      ∃ body, e.Live body := by
  intro run mix
  have session : Session .standard .tinted run := .start Graph.tinted_built []
  have accepted : mix.Accepted := ⟨[], rfl⟩
  have names : (((Scene.resolve ⟨.shipped, .tinted, .recorder .standard⟩ 9 mix none).outcome run).1.toOption.map fun e =>
      boundNames e.statements) =
        some ["texture_color", "texture_color_r", "texture_color_r_saturate", "texture_color_g", "vec_0"] := by
    decide +kernel
  cases ok : ((Scene.resolve ⟨.shipped, .tinted, .recorder .standard⟩ 9 mix none).outcome run).1 with
  | error cause =>
    rw [ok] at names
    cases names
  | ok e =>
    rw [ok] at names
    exact ⟨e, session, Options.standard_valid, accepted, rfl, Option.some.inj names,
      statements_live session Options.standard_valid .shipped (.recorder .standard) 9 accepted none [] ok⟩

end Session

end ShaderGraph
