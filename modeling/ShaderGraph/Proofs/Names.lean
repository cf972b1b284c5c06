import ShaderGraph.Proofs.Shading.Body

namespace ShaderGraph

namespace Identifier

theorem collapse_sublist (text : List Char) : (collapse text).Sublist text := by
  induction text with
  | nil => exact .slnil
  | cons c rest ih =>
    rw [collapse]
    split
    · exact ih.cons c
    · exact ih.cons_cons c

theorem getLast?_collapse (text : List Char) : (collapse text).getLast? = text.getLast? := by
  induction text with
  | nil => rfl
  | cons d rest ih =>
    simp only [collapse]
    split
    · rename_i doubled
      cases rest with
      | nil => simp at doubled
      | cons e rest => rw [ih, List.getLast?_cons_cons]
    · rw [List.getLast?_cons, List.getLast?_cons, ih]

theorem complete_word {text : List Char} (chars : ∀ c ∈ text, isNameChar c = true) :
    (∀ c ∈ complete text, isNameChar c = true) ∧ ∃ c rest, complete text = c :: rest ∧ c.isDigit = false := by
  fun_cases complete text with
  | case1 => exact ⟨List.all_eq_true.mp (by decide), 'v', [], rfl, by decide⟩
  | case2 => exact ⟨List.all_eq_true.mp (by decide), 'v', [], rfl, by decide⟩
  | case3 c rest _ digit =>
    refine ⟨?_, '_', c :: rest, rfl, by decide⟩
    intro d member
    rcases List.mem_cons.mp member with rfl | member
    · decide
    · exact chars d member
  | case4 c rest _ notDigit => exact ⟨chars, c, rest, rfl, by simpa using notDigit⟩

theorem getLast?_complete {text : List Char} {c : Char} (last : text.getLast? = some c) (plain : c ≠ '_') :
    (complete text).getLast? = some c := by
  fun_cases complete text with
  | case1 => cases last
  | case2 => simp at last; exact absurd last.symm plain
  | case3 d rest _ _ => rw [List.getLast?_cons_cons]; exact last
  | case4 d rest _ _ => exact last

theorem isNameChar_masked (text : List Char) :
    ∀ c ∈ text.map (fun c => if isNameChar c then c else '_'), isNameChar c = true := by
  intro c member
  obtain ⟨d, _, rfl⟩ := List.mem_map.mp member
  split
  · assumption
  · decide

theorem sanitize_word (name : String) : Shading.Word (sanitize name) := by
  have chars := fun c (member : c ∈ collapse _) => isNameChar_masked name.toList c ((collapse_sublist _).subset member)
  obtain ⟨all, start⟩ := complete_word chars
  exact ⟨by simpa [sanitize, sanitizeChars] using all, by simpa [sanitize, sanitizeChars] using start⟩

theorem getLast?_sanitize {name : String} {c : Char} (last : name.toList.getLast? = some c)
    (plain : c.isAlphanum = true) : (sanitize name).toList.getLast? = some c := by
  have char : isNameChar c = true := by simp [isNameChar, plain]
  have other : c ≠ '_' := by rintro rfl; revert plain; decide
  rw [sanitize, String.toList_ofList, sanitizeChars]
  apply getLast?_complete _ other
  rw [getLast?_collapse, List.getLast?_map, last]
  simp [char]

end Identifier

namespace NameTable

open Shading

theorem digits_injective {m n : Nat} (same : (toString m).toList = (toString n).toList) : m = n := by
  have digits : Nat.toDigits 10 m = Nat.toDigits 10 n := by
    simpa only [Nat.toString_eq_repr, Nat.toList_repr] using same
  have read := congrArg (fun digits => Nat.ofDigitChars 10 digits 0) digits
  simpa using read

theorem isDigit_of_mem_digits {n : Nat} {c : Char} (member : c ∈ (toString n).toList) : c.isDigit = true := by
  rw [Nat.toString_eq_repr, Nat.toList_repr] at member
  exact Nat.isDigit_of_mem_toDigits (by decide) (by decide) member

theorem low_not_mem_digits (n : Nat) : '_' ∉ (toString n).toList := by
  intro member
  have digit := isDigit_of_mem_digits member
  revert digit
  decide

theorem digits_ne_nil (n : Nat) : (toString n).toList ≠ [] := by
  rw [Nat.toString_eq_repr, Nat.toList_repr]
  exact Nat.toDigits_ne_nil

theorem numbered_injective {stem other : String} {m n : Nat} (same : numbered stem m = numbered other n) :
    stem = other ∧ m = n := by
  have split (stem : String) (n : Nat) :
      (numbered stem n).toList.reverse.takeWhile (· != '_') = (toString n).toList.reverse ∧
        (numbered stem n).toList.reverse.dropWhile (· != '_') = '_' :: stem.toList.reverse := by
    have shape : (numbered stem n).toList.reverse = (toString n).toList.reverse ++ '_' :: stem.toList.reverse := by
      simp [numbered]
    rw [shape]
    refine span_append _ ?_ (by simp)
    intro c member
    rw [List.mem_reverse] at member
    rw [bne_iff_ne]
    intro low
    exact low_not_mem_digits n (low ▸ member)
  obtain ⟨number, front⟩ := split stem m
  obtain ⟨otherNumber, otherFront⟩ := split other n
  rw [same] at number front
  have digits := List.reverse_inj.mp (number.symm.trans otherNumber)
  have stems := (List.cons.inj (front.symm.trans otherFront)).2
  exact ⟨String.toList_inj.mp (List.reverse_inj.mp stems), digits_injective digits⟩

theorem getLast?_numbered (stem : String) (n : Nat) :
    ∃ c, (numbered stem n).toList.getLast? = some c ∧ c.isDigit = true := by
  cases last : (toString n).toList.getLast? with
  | none => exact absurd (List.getLast?_eq_none_iff.mp last) (digits_ne_nil n)
  | some c =>
    refine ⟨c, ?_, isDigit_of_mem_digits (List.mem_of_getLast? last)⟩
    rw [numbered, String.toList_append, List.getLast?_append, last]
    rfl

theorem candidate_injective {stem : String} {j k : Nat} (same : candidate stem j = candidate stem k) : j = k := by
  have longer (k : Nat) : stem ≠ numbered stem k := by
    intro same
    simp [numbered, ← String.toList_inj] at same
  cases j with
  | zero =>
    cases k with
    | zero => rfl
    | succ k => exact absurd same (longer _)
  | succ j =>
    cases k with
    | zero => exact absurd same.symm (longer _)
    | succ k => exact (numbered_injective same).2

theorem exists_accepted (table : NameTable) (stem code : String) :
    ∃ k < table.bound.length + 1, table.accepts code (candidate stem k) = true := by
  obtain ⟨k, inReach, free⟩ := exists_lt_not_mem (f := candidate stem) candidate_injective (table.bound.map Prod.fst)
  rw [List.length_map] at inReach
  have unbound : table.expression? (candidate stem k) = none := by
    rw [expression?, List.lookup_eq_none_iff]
    intro entry member
    rw [bne_iff_ne]
    intro same
    exact free (same ▸ List.mem_map_of_mem member)
  exact ⟨k, inReach, by simp [accepts, unbound]⟩

theorem declare_first (table : NameTable) (name code : String) :
    ∃ k ≤ table.bound.length, (table.declare name code).1 = candidate (Identifier.sanitize name) k ∧
      table.accepts code (candidate (Identifier.sanitize name) k) = true ∧
      ∀ j < k, table.accepts code (candidate (Identifier.sanitize name) j) = false := by
  obtain ⟨k, inReach, accepted⟩ := table.exists_accepted (Identifier.sanitize name) code
  let p := fun k => table.accepts code (candidate (Identifier.sanitize name) k)
  have ends : SearchEnds p 0 (searchFrom p 0 (table.bound.length + 1)) :=
    searchFrom_ends (Nat.zero_le k) (by omega) accepted
  have least := ends.le (Nat.zero_le k) accepted
  exact ⟨searchFrom p 0 (table.bound.length + 1), by omega, rfl, ends.holds, fun j => ends.refuses (Nat.zero_le j)⟩

def body (table : NameTable) : List Binding :=
  table.bound.reverse.map (fun entry => ⟨entry.1, entry.2⟩)

def Kept (table later : NameTable) : Prop :=
  ∀ name code, table.expression? name = some code → later.expression? name = some code

theorem Kept.refl (table : NameTable) : table.Kept table := fun _ _ h => h

theorem Kept.trans {first second third : NameTable} (left : first.Kept second) (right : second.Kept third) :
    first.Kept third :=
  fun name code h => right name code (left name code h)

theorem mem_body_of_expression? {table : NameTable} {binding : Binding}
    (recorded : table.expression? binding.name = some binding.code) : binding ∈ table.body := by
  rw [body, List.mem_map]
  refine ⟨(binding.name, binding.code), ?_, rfl⟩
  rw [List.mem_reverse]
  exact mem_of_lookup recorded

theorem expression?_isSome_of_mem_body {table : NameTable} {name : String}
    (member : name ∈ table.body.map Binding.name) : (table.expression? name).isSome := by
  simp only [body, List.map_map, List.mem_map, List.mem_reverse, Function.comp] at member
  obtain ⟨entry, member, rfl⟩ := member
  exact List.lookup_isSome_iff.mpr ⟨entry, member, by simp⟩

/-- What a declaration does: it issues a candidate that already stands for the code, or makes a definition of a free
    one. -/
theorem declare_cases (table : NameTable) (name code : String) :
    ∃ k, (table.declare name code).1 = candidate (Identifier.sanitize name) k ∧
      ((table.expression? (table.declare name code).1 = some code ∧ (table.declare name code).2 = table) ∨
        (table.expression? (table.declare name code).1 = none ∧
          (table.declare name code).2.body = table.body ++ [⟨(table.declare name code).1, code⟩] ∧
          table.Kept (table.declare name code).2 ∧
          (table.declare name code).2.expression? (table.declare name code).1 = some code)) := by
  obtain ⟨k, _, issued, found, _⟩ := table.declare_first name code
  have made : (table.declare name code).2 = table.bind (table.declare name code).1 code := rfl
  rw [← issued] at found
  refine ⟨k, issued, ?_⟩
  rw [made]
  generalize (table.declare name code).1 = var at found
  cases known : table.expression? var with
  | some other =>
    left
    have same : other = code := by simpa [accepts, known] using found
    simp [bind, isFree, known, same]
  | none =>
    right
    have free : table.isFree var = true := by simp [isFree, known]
    refine ⟨rfl, by simp [bind, free, body], ?_, by simp [expression?_bind, free]⟩
    intro other defined recorded
    rw [expression?_bind]
    split
    · rename_i asked
      rw [asked.1, known] at recorded
      cases recorded
    · exact recorded

theorem declare_kept (table : NameTable) (name code : String) : table.Kept (table.declare name code).2 := by
  obtain ⟨_, _, ⟨_, same⟩ | ⟨_, _, kept, _⟩⟩ := table.declare_cases name code
  · rw [same]; exact .refl _
  · exact kept

theorem declare_recorded (table : NameTable) (name code : String) :
    (table.declare name code).2.expression? (table.declare name code).1 = some code := by
  obtain ⟨_, _, ⟨known, same⟩ | ⟨_, _, _, recorded⟩⟩ := table.declare_cases name code
  · rw [same]; exact known
  · exact recorded

theorem numbered_word {stem : String} (word : Word stem) (n : Nat) : Word (numbered stem n) := by
  obtain ⟨c, rest, same, notDigit⟩ := word.start
  refine ⟨?_, c, rest ++ ('_' :: (toString n).toList), by simp [numbered, same], notDigit⟩
  intro d member
  simp only [numbered, String.toList_append, List.mem_append] at member
  rcases member with (member | member) | member
  · exact word.chars d member
  · simp at member; rw [member]; decide
  · simp [Identifier.isNameChar, Char.isAlphanum, isDigit_of_mem_digits member]

theorem declare_word (table : NameTable) (name code : String) : Word (table.declare name code).1 := by
  obtain ⟨k, issued, _⟩ := table.declare_cases name code
  have stem := Identifier.sanitize_word name
  rw [issued]
  cases k with
  | zero => exact stem
  | succ k => exact numbered_word stem _

/-- A text whose last character is a letter or a digit, and not one that a variable of the mesh ends in. -/
def plainEnd (name : String) : Bool :=
  name.toList.getLast?.any (fun c => c.isAlphanum && c ∉ ['v', 'l', 'n'])

theorem any_getLast?_append {p : Char → Bool} {back : String} (holds : back.toList.getLast?.any p = true)
    (front : String) : (front ++ back).toList.getLast?.any p = true := by
  rw [String.toList_append, List.getLast?_append]
  cases last : back.toList.getLast? with
  | none => simp [last] at holds
  | some c => simpa [last] using holds

theorem any_getLast?_sanitize {p : Char → Bool} (alphanum : ∀ c, p c = true → c.isAlphanum = true) {name : String}
    (holds : name.toList.getLast?.any p = true) : (Identifier.sanitize name).toList.getLast?.any p = true := by
  cases last : name.toList.getLast? with
  | none => simp [last] at holds
  | some c =>
    rw [last] at holds
    rw [Identifier.getLast?_sanitize last (alphanum c holds)]
    exact holds

theorem plainEnd_append {back : String} (plain : plainEnd back = true) (front : String) :
    plainEnd (front ++ back) = true :=
  any_getLast?_append plain front

theorem plainEnd_numbered (stem : String) (n : Nat) : plainEnd (numbered stem n) = true := by
  obtain ⟨c, last, digit⟩ := getLast?_numbered stem n
  have other : c ≠ 'v' ∧ c ≠ 'l' ∧ c ≠ 'n' := by
    refine ⟨?_, ?_, ?_⟩ <;> rintro rfl <;> revert digit <;> decide
  rw [plainEnd, last]
  simp [Char.isAlphanum, digit, other]

theorem plainEnd_sanitize {name : String} (plain : plainEnd name = true) :
    plainEnd (Identifier.sanitize name) = true := by
  apply any_getLast?_sanitize _ plain
  intro c ends
  rw [Bool.and_eq_true] at ends
  exact ends.1

theorem declare_plainEnd (table : NameTable) {name : String} (plain : plainEnd name = true) (code : String) :
    plainEnd (table.declare name code).1 = true := by
  obtain ⟨k, issued, _⟩ := table.declare_cases name code
  rw [issued]
  cases k with
  | zero => exact plainEnd_sanitize plain
  | succ k => exact plainEnd_numbered _ _

def meshNames : List String := ["uv", "world_normal", "world_position"]

theorem not_mesh_of_plainEnd {name : String} (plain : plainEnd name = true) : name ∉ meshNames := by
  intro member
  have ends : ∀ name ∈ meshNames, plainEnd name = false := by decide
  rw [ends name member] at plain
  cases plain

structure Runs {β : Type} (value : Evaluator β) (start : Scope β) (table : NameTable) (after : Scope β) : Prop where
  written : ∀ binding ∈ table.body, ∃ term, binding.Reads term
  ran : execute value start (texts table.body) = some after

theorem runs_empty {β : Type} (value : Evaluator β) (start : Scope β) : Runs value start empty start :=
  ⟨by simp [body, empty], rfl⟩

theorem runs_next {β : Type} {value : Evaluator β} {start after : Scope β} {table : NameTable}
    (runs : table.Runs value start after) (stem : String) : (table.next stem).2.Runs value start after :=
  ⟨runs.written, runs.ran⟩

theorem Runs.declare {β : Type} {value : Evaluator β} (lawful : Lawful value) {start after : Scope β}
    {table : NameTable} (runs : table.Runs value start after)
    (mesh : ∀ name, (start.lookup name).isSome → name ∈ meshNames) {name : String} (plain : plainEnd name = true)
    {code : Code} (proper : code.Proper) {x : β} (found : value (after.lookup ·) code.term = some x) :
    ∃ later, (table.declare name code.render).2.Runs value start later ∧ after.Extends later ∧
      later.lookup (table.declare name code.render).1 = some x := by
  have executed := execute_executed lawful runs.written runs.ran
  have word := table.declare_word name code.render
  have other := not_mesh_of_plainEnd (table.declare_plainEnd plain code.render)
  obtain ⟨_, _, ⟨known, same⟩ | ⟨free, extended, _⟩⟩ := table.declare_cases name code.render
  · rw [same]
    have reads : Binding.Reads ⟨(table.declare name code.render).1, code.render⟩ code.term :=
      ⟨word, code, proper, rfl, rfl⟩
    obtain ⟨y, bound, valued⟩ := executed.holds _ (mem_body_of_expression? known) code.term reads
    rw [found] at valued
    cases valued
    exact ⟨after, runs, .refl _, bound⟩
  · generalize (table.declare name code.render).1 = var at *
    have reads : Binding.Reads ⟨var, code.render⟩ code.term := ⟨word, code, proper, rfl, rfl⟩
    have absent : after.lookup var = none := by
      apply Option.not_isSome_iff_eq_none.mp
      rw [executed.names]
      rintro (mentioned | member)
      · exact other (mesh var mentioned)
      · simpa [free] using expression?_isSome_of_mem_body member
    refine ⟨(var, x) :: after, ⟨?_, ?_⟩, Scope.extends_cons absent x, by simp⟩
    · rw [extended]
      intro binding member
      rcases List.mem_append.mp member with member | member
      · exact runs.written binding member
      · rw [List.mem_singleton.mp member]
        exact ⟨code.term, reads⟩
    · rw [extended]
      exact Executed.append runs.ran reads absent found

end NameTable

/-- The names under which the statements of an expression sample and that are taken there, by the mesh or by an earlier
    statement. -/
def Expression.captured (e : Expression) : List String := Shading.capturedIn NameTable.meshNames e.statements

end ShaderGraph
