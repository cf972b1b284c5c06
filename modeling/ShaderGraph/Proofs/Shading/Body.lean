import ShaderGraph.Proofs.Shading.Reading
import ShaderGraph.Proofs.Uniting

namespace ShaderGraph.Shading

abbrev Evaluator (β : Type) := (String → Option β) → Term → Option β

/-- The value of a term depends on all names that it mentions, and on no others. -/
structure Lawful {β : Type} (value : Evaluator β) : Prop where
  strict : ∀ {scope : String → Option β} {term : Term} {x : β}, value scope term = some x →
    ∀ name ∈ term.mentions, (scope name).isSome
  agree : ∀ {scope other : String → Option β} {term : Term}, (∀ name ∈ term.mentions, scope name = other name) →
    value scope term = value other term

theorem Lawful.extends {β : Type} {value : Evaluator β} (lawful : Lawful value) {scope other : String → Option β}
    (wider : ∀ name x, scope name = some x → other name = some x) {term : Term} {x : β}
    (found : value scope term = some x) : value other term = some x := by
  rw [← found]
  apply lawful.agree
  intro name member
  obtain ⟨y, known⟩ := Option.isSome_iff_exists.mp (lawful.strict found name member)
  rw [known, wider name y known]

theorem value?_lawful {β : Type} (algebra : Algebra β) : Lawful (Term.value? algebra) := by
  constructor
  · intro scope term x found
    induction term generalizing x with
    | name ident => simp_all [Term.value?, Term.mentions]
    | numeral text => simp [Term.mentions]
    | splat outer operand ih | swizzle operand letters ih | sample texture sampler operand ih =>
      simp only [Term.value?, Option.bind_eq_bind, Option.bind_eq_some_iff] at found
      obtain ⟨inner, known, _⟩ := found
      exact ih known
    | pair outer first second ihf ihs =>
      simp only [Term.value?, Option.bind_eq_bind, Option.bind_eq_some_iff] at found
      obtain ⟨left, leftKnown, right, rightKnown, _⟩ := found
      simp only [Term.mentions, List.mem_append]
      rintro name (member | member)
      · exact ihf leftKnown name member
      · exact ihs rightKnown name member
    | quad outer first second third fourth ih1 ih2 ih3 ih4 =>
      simp only [Term.value?, Option.bind_eq_bind, Option.bind_eq_some_iff] at found
      obtain ⟨s, hs, t, ht, u, hu, v, hv, _⟩ := found
      simp only [Term.mentions, List.mem_append]
      rintro name (((member | member) | member) | member)
      · exact ih1 hs name member
      · exact ih2 ht name member
      · exact ih3 hu name member
      · exact ih4 hv name member
    | clamp operand low high iho ihl ihh =>
      simp only [Term.value?, Option.bind_eq_bind, Option.bind_eq_some_iff] at found
      obtain ⟨s, hs, t, ht, u, hu, _⟩ := found
      simp only [Term.mentions, List.mem_append]
      rintro name ((member | member) | member)
      · exact iho hs name member
      · exact ihl ht name member
      · exact ihh hu name member
  · intro scope other term same
    induction term <;> simp_all [Term.value?, Term.mentions]

abbrev Scope (β : Type) := List (String × β)

/-- Run statements in order: each binds a name that has no value yet. -/
def execute {β : Type} (value : Evaluator β) : Scope β → List Value → Option (Scope β)
  | scope, [] => some scope
  | scope, .text text :: rest => do
    let (name, term) ← readStatement? text
    if (scope.lookup name).isSome then none
    else execute value ((name, ← value (scope.lookup ·) term) :: scope) rest
  | _, _ :: _ => none

structure Binding where
  name : String
  code : String
deriving DecidableEq

namespace Binding

def text (binding : Binding) : String := letStatement binding.name binding.code

def Reads (binding : Binding) (term : Term) : Prop :=
  Word binding.name ∧ ∃ code : Code, code.Proper ∧ binding.code = code.render ∧ term = code.term

theorem Reads.code_eq {binding : Binding} {term : Term} (reads : binding.Reads term) :
    Term.read? binding.code = some term := by
  obtain ⟨_, code, proper, written, rfl⟩ := reads
  rw [written, proper.read_render]

theorem Reads.statement_eq {binding : Binding} {term : Term} (reads : binding.Reads term) :
    readStatement? binding.text = some (binding.name, term) := by
  obtain ⟨word, code, proper, written, rfl⟩ := reads
  rw [text, written, proper.read_statement word]

theorem Reads.unique {binding : Binding} {term other : Term} (reads : binding.Reads term)
    (also : binding.Reads other) : term = other := by
  have same := reads.code_eq
  rw [also.code_eq, Option.some.injEq] at same
  exact same.symm

theorem text_injective {left right : Binding} (leftWord : Word left.name) (rightWord : Word right.name)
    (same : left.text = right.text) : left = right := by
  have split (binding : Binding) (word : Word binding.name) :
      (binding.text.toList.drop 4).takeWhile Identifier.isNameChar = binding.name.toList ∧
        (binding.text.toList.drop 4).dropWhile Identifier.isNameChar = " = ".toList ++ (binding.code.toList ++ [';']) := by
    have shape : binding.text.toList.drop 4 = binding.name.toList ++ (" = ".toList ++ (binding.code.toList ++ [';'])) := by
      simp [text, letStatement]
    rw [shape]
    exact span_append _ word.chars (by simp; decide)
  obtain ⟨leftName, leftRest⟩ := split left leftWord
  obtain ⟨rightName, rightRest⟩ := split right rightWord
  rw [same] at leftName leftRest
  have name : left.name = right.name := String.toList_inj.mp (leftName.symm.trans rightName)
  have code : left.code = right.code := by
    have rest := leftRest.symm.trans rightRest
    have inner := List.append_cancel_right (List.append_cancel_left rest)
    exact String.toList_inj.mp inner
  cases left
  cases right
  simp_all

end Binding

def texts (body : List Binding) : List Value :=
  body.map (fun binding => .text binding.text)

def boundNames (statements : List Value) : List String :=
  statements.filterMap (fun
    | .text text => (readStatement? text).map Prod.fst
    | _ => none)

theorem boundNames_texts {body : List Binding} (written : ∀ binding ∈ body, ∃ term, binding.Reads term) :
    boundNames (texts body) = body.map Binding.name := by
  induction body with
  | nil => rfl
  | cons binding body ih =>
    obtain ⟨term, reads⟩ := written binding (by simp)
    have rest := ih (fun other member => written other (by simp [member]))
    simp only [boundNames, texts, List.map_cons] at rest ⊢
    rw [List.filterMap_cons_some (b := binding.name) (by simp [reads.statement_eq]), rest]

theorem execute_append {β : Type} (value : Evaluator β) (scope : Scope β) (front back : List Value) :
    execute value scope (front ++ back) = (execute value scope front).bind (execute value · back) := by
  induction front generalizing scope with
  | nil => rfl
  | cons statement front ih =>
    cases statement with
    | text text =>
      simp only [List.cons_append, execute, Option.bind_eq_bind, Option.bind_assoc]
      congr 1
      funext named
      split
      · rfl
      · simp [ih, Option.bind_assoc]
    | _ => rfl

theorem execute_cons {β : Type} {value : Evaluator β} {scope : Scope β} {binding : Binding} {term : Term}
    (reads : binding.Reads term) (body : List Binding) :
    execute value scope (texts (binding :: body)) =
      if (scope.lookup binding.name).isSome then none
      else (value (scope.lookup ·) term).bind (fun x => execute value ((binding.name, x) :: scope) (texts body)) := by
  simp [texts, execute, reads.statement_eq]

theorem lookup_cons {β : Type} (name other : String) (x : β) (scope : Scope β) :
    List.lookup other ((name, x) :: scope) = if other = name then some x else scope.lookup other := by
  by_cases same : other = name
  · simp [same]
  · simp [List.lookup_cons, beq_eq_false_iff_ne.mpr same, same]

theorem mem_of_lookup {κ β : Type} [BEq κ] [LawfulBEq κ] {entries : List (κ × β)} {key : κ} {x : β}
    (found : entries.lookup key = some x) : (key, x) ∈ entries := by
  obtain ⟨front, back, rfl, _⟩ := List.lookup_eq_some_iff.mp found
  simp

def Scope.Extends {β : Type} (scope wider : Scope β) : Prop :=
  ∀ name x, scope.lookup name = some x → wider.lookup name = some x

theorem Scope.Extends.refl {β : Type} (scope : Scope β) : scope.Extends scope := fun _ _ h => h

theorem Scope.Extends.trans {β : Type} {first second third : Scope β} (left : first.Extends second)
    (right : second.Extends third) : first.Extends third :=
  fun name x h => right name x (left name x h)

theorem Scope.extends_cons {β : Type} {scope : Scope β} {name : String} (free : scope.lookup name = none) (x : β) :
    scope.Extends ((name, x) :: scope) := by
  intro other y known
  rw [lookup_cons]
  split
  · rename_i same
    rw [same, free] at known
    cases known
  · exact known

/-- What a body leaves behind: each name has the value of its definition, in the scope at the end as well. -/
structure Executed {β : Type} (value : Evaluator β) (scope after : Scope β) (body : List Binding) : Prop where
  wider : scope.Extends after
  fresh : ∀ binding ∈ body, scope.lookup binding.name = none
  holds : ∀ binding ∈ body, ∀ term, binding.Reads term →
    ∃ x, after.lookup binding.name = some x ∧ value (after.lookup ·) term = some x
  names : ∀ name, (after.lookup name).isSome ↔ (scope.lookup name).isSome ∨ name ∈ body.map Binding.name

theorem execute_executed {β : Type} {value : Evaluator β} (lawful : Lawful value) {scope after : Scope β}
    {body : List Binding} (written : ∀ binding ∈ body, ∃ term, binding.Reads term)
    (ran : execute value scope (texts body) = some after) : Executed value scope after body := by
  induction body generalizing scope with
  | nil =>
    cases ran
    exact ⟨.refl _, by simp, by simp, by simp⟩
  | cons binding body ih =>
    obtain ⟨term, reads⟩ := written binding (by simp)
    rw [execute_cons reads] at ran
    have free : scope.lookup binding.name = none := by
      cases known : scope.lookup binding.name with
      | none => rfl
      | some y => simp [known] at ran
    simp only [free, Option.isSome_none, Bool.false_eq_true, if_false, Option.bind_eq_some_iff] at ran
    obtain ⟨x, found, ran⟩ := ran
    have rest := ih (fun other member => written other (by simp [member])) ran
    have wider : scope.Extends after := (Scope.extends_cons free x).trans rest.wider
    refine ⟨wider, ?_, ?_, ?_⟩
    · intro other member
      rcases List.mem_cons.mp member with rfl | member
      · exact free
      · have absent := rest.fresh other member
        rw [lookup_cons] at absent
        split at absent
        · cases absent
        · exact absent
    · intro other member otherTerm otherReads
      rcases List.mem_cons.mp member with rfl | member
      · have same := otherReads.unique reads
        subst same
        exact ⟨x, rest.wider _ _ (by simp), lawful.extends wider found⟩
      · exact rest.holds other member otherTerm otherReads
    · intro name
      rw [rest.names, lookup_cons, List.map_cons, List.mem_cons]
      by_cases same : name = binding.name
      · simp [same]
      · simp [same]

theorem Executed.append {β : Type} {value : Evaluator β} {scope after : Scope β} {body : List Binding}
    (ran : execute value scope (texts body) = some after) {binding : Binding} {term : Term}
    (reads : binding.Reads term) (free : after.lookup binding.name = none) {x : β}
    (found : value (after.lookup ·) term = some x) :
    execute value scope (texts (body ++ [binding])) = some ((binding.name, x) :: after) := by
  have last : execute value after (texts [binding]) = some ((binding.name, x) :: after) := by
    rw [execute_cons reads, free, found]
    rfl
  rw [texts, List.map_append, execute_append]
  change (execute value scope (texts body)).bind (fun s => execute value s (texts [binding])) = _
  rw [ran, Option.bind_some, last]

def Ordered : (known : List String) → List Binding → Prop
  | _, [] => True
  | known, binding :: rest =>
    (∃ term, binding.Reads term ∧ ∀ name ∈ term.mentions, name ∈ known) ∧ Ordered (binding.name :: known) rest

theorem Ordered.mono {known more : List String} {body : List Binding} (ordered : Ordered known body)
    (wider : ∀ name ∈ known, name ∈ more) : Ordered more body := by
  induction body generalizing known more with
  | nil => trivial
  | cons binding body ih =>
    obtain ⟨⟨term, reads, mentions⟩, rest⟩ := ordered
    refine ⟨⟨term, reads, fun name member => wider name (mentions name member)⟩, ih rest ?_⟩
    intro name member
    rcases List.mem_cons.mp member with rfl | member
    · simp
    · exact List.mem_cons_of_mem _ (wider name member)

theorem Ordered.written {known : List String} {body : List Binding} (ordered : Ordered known body) :
    ∀ binding ∈ body, ∃ term, binding.Reads term := by
  induction body generalizing known with
  | nil => simp
  | cons binding body ih =>
    intro other member
    rcases List.mem_cons.mp member with rfl | member
    · obtain ⟨⟨term, reads, _⟩, _⟩ := ordered
      exact ⟨term, reads⟩
    · exact ih ordered.2 other member

theorem Ordered.words {known : List String} {body : List Binding} (ordered : Ordered known body) :
    ∀ binding ∈ body, Word binding.name := by
  intro binding member
  obtain ⟨_, word, _⟩ := ordered.written binding member
  exact word

theorem Ordered.last_unmentioned {known : List String} {front : List Binding} {last : Binding}
    (ordered : Ordered known (front ++ [last])) (distinct : ((front ++ [last]).map Binding.name).Nodup)
    (unknown : last.name ∉ known) {binding : Binding} (member : binding ∈ front ++ [last]) {term : Term}
    (reads : binding.Reads term) : last.name ∉ term.mentions := by
  induction front generalizing known with
  | nil =>
    obtain ⟨⟨own, ownReads, mentions⟩, _⟩ := ordered
    have same : binding = last := by simpa using member
    subst same
    rw [reads.unique ownReads]
    exact fun mentioned => unknown (mentions _ mentioned)
  | cons first front ih =>
    obtain ⟨⟨own, ownReads, mentions⟩, rest⟩ := ordered
    rw [List.cons_append, List.map_cons, List.nodup_cons] at distinct
    rcases List.mem_cons.mp member with rfl | member
    · rw [reads.unique ownReads]
      exact fun mentioned => unknown (mentions _ mentioned)
    · refine ih rest distinct.2 ?_ member
      rw [List.mem_cons, not_or]
      refine ⟨?_, unknown⟩
      intro same
      exact distinct.1 (by simp [← same])

theorem ordered_append {known : List String} {front back : List Binding} :
    Ordered known (front ++ back) ↔ Ordered known front ∧ Ordered (front.map Binding.name ++ known) back := by
  induction front generalizing known with
  | nil => simp [Ordered]
  | cons binding front ih =>
    simp only [List.cons_append, Ordered, ih, List.map_cons, and_assoc]
    refine and_congr_right fun _ => and_congr_right fun _ => ⟨fun h => h.mono ?_, fun h => h.mono ?_⟩
    all_goals
      intro name member
      simp only [List.mem_append, List.mem_cons] at member ⊢
      grind

/-- A body whose names have their values in a wider scope already runs, and binds them to these values. -/
theorem execute_agree {β : Type} {value : Evaluator β} (lawful : Lawful value) {scope after : Scope β}
    {body : List Binding} {known : List String} (wider : scope.Extends after)
    (holds : ∀ binding ∈ body, ∀ term, binding.Reads term →
      ∃ x, after.lookup binding.name = some x ∧ value (after.lookup ·) term = some x)
    (fresh : ∀ binding ∈ body, scope.lookup binding.name = none) (distinct : (body.map Binding.name).Nodup)
    (ordered : Ordered known body) (defined : ∀ name ∈ known, (scope.lookup name).isSome) :
    ∃ result, execute value scope (texts body) = some result ∧ result.Extends after := by
  induction body generalizing scope known with
  | nil => exact ⟨scope, rfl, wider⟩
  | cons binding body ih =>
    obtain ⟨⟨term, reads, mentions⟩, rest⟩ := ordered
    have free : scope.lookup binding.name = none := fresh binding (by simp)
    obtain ⟨x, bound, found⟩ := holds binding (by simp) term reads
    have here : value (scope.lookup ·) term = some x := by
      rw [← found]
      apply lawful.agree
      intro name member
      obtain ⟨y, value⟩ := Option.isSome_iff_exists.mp (defined name (mentions name member))
      rw [value, wider name y value]
    rw [List.map_cons, List.nodup_cons] at distinct
    have extended : Scope.Extends ((binding.name, x) :: scope) after := by
      intro name y
      rw [lookup_cons]
      split
      · rename_i same
        rintro ⟨rfl⟩
        rw [same, bound]
      · exact wider name y
    obtain ⟨result, ran, agrees⟩ := ih extended (fun other member => holds other (by simp [member]))
      (by
        intro other member
        rw [lookup_cons]
        split
        · rename_i same
          exact absurd (same ▸ List.mem_map_of_mem member) distinct.1
        · exact fresh other (by simp [member]))
      distinct.2 rest
      (by
        intro name member
        rw [lookup_cons]
        split
        · rfl
        · rename_i other
          exact defined name ((List.mem_cons.mp member).resolve_left other))
    refine ⟨result, ?_, agrees⟩
    rw [execute_cons reads, free, here]
    simpa using ran

theorem merge_texts {own other : List Binding} (words : ∀ binding ∈ own, Word binding.name)
    (otherWords : ∀ binding ∈ other, Word binding.name) :
    merge (texts own) (texts other) = texts (unite own other) := by
  have word (binding : Binding) (member : binding ∈ own ++ other) : Word binding.name :=
    (List.mem_append.mp member).elim (words binding) (otherWords binding)
  apply merge_map
  intro binding member next nextMember
  rw [Value.same_text, beq_iff_eq]
  exact ⟨Binding.text_injective (word binding member) (word next nextMember), congrArg Binding.text⟩

theorem ordered_unite {own other : List Binding} {known seen : List String} (ordered : Ordered known own)
    (otherOrdered : Ordered seen other) (passed : ∀ name ∈ seen, name ∈ own.map Binding.name ++ known) :
    Ordered known (unite own other) := by
  induction other generalizing own seen with
  | nil => exact ordered
  | cons next other ih =>
    obtain ⟨⟨term, reads, mentions⟩, rest⟩ := otherOrdered
    simp only [unite, List.foldl_cons] at ih ⊢
    split
    · rename_i member
      apply ih ordered rest
      intro name named
      rcases List.mem_cons.mp named with rfl | named
      · exact List.mem_append_left _ (List.mem_map_of_mem member)
      · exact passed name named
    · refine ih (ordered_append.mpr ⟨ordered, ⟨term, reads, fun name named => passed name (mentions name named)⟩, trivial⟩)
        rest ?_
      intro name named
      rcases List.mem_cons.mp named with rfl | named
      · simp
      · have := passed name named
        simp only [List.mem_append, List.map_append] at this ⊢
        grind

/-- The names under which statements sample, where something in scope already has the name. -/
def capturedIn : (scope : List String) → List Value → List String
  | _, [] => []
  | scope, .text text :: rest =>
    match readStatement? text with
    | some (name, term) => term.resources.filter scope.contains ++ capturedIn (name :: scope) rest
    | none => capturedIn scope rest
  | scope, _ :: rest => capturedIn scope rest

theorem capturedIn_cons {binding : Binding} {term : Term} (reads : binding.Reads term) (scope : List String)
    (body : List Binding) :
    capturedIn scope (texts (binding :: body)) =
      term.resources.filter scope.contains ++ capturedIn (binding.name :: scope) (texts body) := by
  simp [texts, capturedIn, reads.statement_eq]

theorem mem_capturedIn {name : String} {body : List Binding} (written : ∀ binding ∈ body, ∃ term, binding.Reads term)
    {scope : List String} (member : name ∈ capturedIn scope (texts body)) :
    ∃ front binding back term, body = front ++ binding :: back ∧ binding.Reads term ∧ name ∈ term.resources ∧
      (name ∈ scope ∨ name ∈ front.map Binding.name) := by
  induction body generalizing scope with
  | nil => cases member
  | cons first body ih =>
    obtain ⟨term, reads⟩ := written first List.mem_cons_self
    rw [capturedIn_cons reads, List.mem_append, List.mem_filter] at member
    rcases member with ⟨resource, taken⟩ | member
    · exact ⟨[], first, body, term, rfl, reads, resource, .inl (by simpa using taken)⟩
    · obtain ⟨front, binding, back, inner, rfl, innerReads, resource, taken⟩ :=
        ih (fun other inside => written other (List.mem_cons_of_mem _ inside)) member
      refine ⟨first :: front, binding, back, inner, rfl, innerReads, resource, ?_⟩
      rw [List.mem_cons] at taken
      rw [List.map_cons, List.mem_cons]
      tauto

end ShaderGraph.Shading
