import ShaderGraph.Node.Rule
import ShaderGraph.Proofs.Shading.Term

namespace ShaderGraph

namespace Shading

structure Word (name : String) : Prop where
  chars : ∀ c ∈ name.toList, Identifier.isNameChar c = true
  start : ∃ c rest, name.toList = c :: rest ∧ c.isDigit = false

structure NumeralText (text : String) : Prop where
  chars : ∀ c ∈ text.toList, isNumeralChar c = true
  start : ∃ c rest, text.toList = c :: rest ∧ startsNumeral c = true

def Breaks (rest : List Char) : Prop :=
  ∀ c ∈ rest.head?, c = ',' ∨ c = ')' ∨ c = ';' ∨ c = '.'

def Ends (rest : List Char) : Prop :=
  ∀ c ∈ rest.head?, c = ',' ∨ c = ')' ∨ c = ';'

theorem Ends.breaks {rest : List Char} (ends : Ends rest) : Breaks rest := by
  intro c member
  rcases ends c member with h | h | h <;> simp [h]

theorem ends_nil : Ends [] := by simp [Ends]

theorem ends_comma (rest : List Char) : Ends (',' :: rest) := by simp [Ends]

theorem ends_close (rest : List Char) : Ends (')' :: rest) := by simp [Ends]

theorem ends_semicolon (rest : List Char) : Ends (';' :: rest) := by simp [Ends]

theorem breaks_point (rest : List Char) : Breaks ('.' :: rest) := by simp [Breaks]

theorem span_append {p : Char → Bool} {run : List Char} (rest : List Char) (all : ∀ c ∈ run, p c = true)
    (stop : ∀ c ∈ rest.head?, p c = false) :
    (run ++ rest).takeWhile p = run ∧ (run ++ rest).dropWhile p = rest := by
  have none : rest.takeWhile p = [] ∧ rest.dropWhile p = rest := by
    cases rest with
    | nil => exact ⟨rfl, rfl⟩
    | cons c tail => simp [stop c (by simp)]
  rw [List.takeWhile_append_of_pos all, List.dropWhile_append_of_pos all, none.1, none.2]
  simp

theorem Breaks.not_name {rest : List Char} (breaks : Breaks rest) :
    ∀ c ∈ rest.head?, Identifier.isNameChar c = false := by
  intro c member
  rcases breaks c member with rfl | rfl | rfl | rfl <;> decide

theorem Ends.not_numeral {rest : List Char} (ends : Ends rest) :
    ∀ c ∈ rest.head?, isNumeralChar c = false := by
  intro c member
  rcases ends c member with rfl | rfl | rfl <;> decide

theorem Ends.suffix_eq {rest : List Char} (ends : Ends rest) (operand : Term) :
    suffix operand rest = (operand, rest) := by
  cases rest with
  | nil => rfl
  | cons c tail => rcases ends c (by simp) with rfl | rfl | rfl <;> rfl

theorem Word.ne_empty {name : String} (word : Word name) : name ≠ "" := by
  obtain ⟨c, rest, same, _⟩ := word.start
  rintro rfl
  simp at same

theorem primary?_word {name : String} (word : Word name) (argument : Reader) {rest : List Char}
    (stop : ∀ c ∈ rest.head?, Identifier.isNameChar c = false) :
    primary? argument (name.toList ++ rest) = word? argument name rest := by
  obtain ⟨c, tail, same, notDigit⟩ := word.start
  have nameChar : Identifier.isNameChar c = true := word.chars c (by simp [same])
  have notNumeral : startsNumeral c = false := by
    have notMinus : c ≠ '-' := by rintro rfl; exact absurd nameChar (by decide)
    simp [startsNumeral, notDigit, notMinus]
  obtain ⟨taken, left⟩ := span_append rest word.chars stop
  rw [same, List.cons_append] at taken left ⊢
  simp only [primary?, notNumeral, Bool.false_eq_true, if_false, taken, left]
  rw [← same, String.ofList_toList]

theorem primary?_name {name : String} (word : Word name) (argument : Reader) {rest : List Char}
    (breaks : Breaks rest) : primary? argument (name.toList ++ rest) = some (.name name, rest) := by
  rw [primary?_word word argument breaks.not_name]
  cases rest with
  | nil => simp [word?, word.ne_empty]
  | cons c tail =>
    rcases breaks c (by simp) with rfl | rfl | rfl | rfl <;> simp [word?, word.ne_empty]

theorem primary?_numeral {text : String} (numeral : NumeralText text) (argument : Reader) {rest : List Char}
    (ends : Ends rest) : primary? argument (text.toList ++ rest) = some (.numeral text, rest) := by
  obtain ⟨c, tail, same, start⟩ := numeral.start
  obtain ⟨taken, left⟩ := span_append rest numeral.chars ends.not_numeral
  rw [same, List.cons_append] at taken left ⊢
  simp only [primary?, start, if_true, taken, left]
  rw [← same, String.ofList_toList]

theorem nextArgument?_append (argument : Reader) (rest : List Char) :
    nextArgument? argument (',' :: ' ' :: rest) = argument rest := by
  simp [nextArgument?, after?]

end Shading

theorem Decimal.digitText_chars (n : Nat) : ∀ c ∈ Decimal.digitText n, c.isDigit = true :=
  fun _ member => Nat.isDigit_of_mem_toDigits (by decide) (by decide) member

theorem Decimal.padLeft_chars {width : Nat} {digits : List Char} (all : ∀ c ∈ digits, c.isDigit = true) :
    ∀ c ∈ Decimal.padLeft width digits, c.isDigit = true := by
  intro c member
  rcases List.mem_append.mp member with zero | member
  · rw [List.eq_of_mem_replicate zero]; decide
  · exact all c member

def Decimal.Positive (text : List Char) : Prop :=
  (∀ c ∈ text, Shading.isNumeralChar c = true) ∧ ∃ c rest, text = c :: rest ∧ c.isDigit = true

theorem Shading.isNumeralChar_of_isDigit {c : Char} (digit : c.isDigit = true) :
    Shading.isNumeralChar c = true := by
  simp [Shading.isNumeralChar, Shading.startsNumeral, digit]

theorem Decimal.Positive.append (digits : List Char) {tail : List Char} (all : ∀ c ∈ digits, c.isDigit = true)
    (some : digits ≠ []) (rest : ∀ c ∈ tail, Shading.isNumeralChar c = true) :
    Decimal.Positive (digits ++ tail) := by
  constructor
  · intro c member
    rcases List.mem_append.mp member with member | member
    · exact Shading.isNumeralChar_of_isDigit (all c member)
    · exact rest c member
  · obtain ⟨c, more, rfl⟩ := List.exists_cons_of_ne_nil some
    exact ⟨c, more ++ tail, rfl, all c (by simp)⟩

theorem Decimal.layout_positive (d : Decimal) : Decimal.Positive d.layout := by
  have digits := Decimal.digitText_chars d.digits
  have nonempty : Decimal.digitText d.digits ≠ [] := Nat.toDigits_ne_nil
  have length : 0 < (Decimal.digitText d.digits).length := List.length_pos_iff.mpr nonempty
  have numeral : ∀ c ∈ Decimal.digitText d.digits, Shading.isNumeralChar c = true :=
    fun c member => Shading.isNumeralChar_of_isDigit (digits c member)
  have taken (n : Nat) : ∀ c ∈ (Decimal.digitText d.digits).take n, c.isDigit = true :=
    fun c member => digits c (List.mem_of_mem_take member)
  have dropped (n : Nat) : ∀ c ∈ (Decimal.digitText d.digits).drop n, Shading.isNumeralChar c = true :=
    fun c member => numeral c (List.mem_of_mem_drop member)
  have takenSome (n : Nat) : (Decimal.digitText d.digits).take (n + 1) ≠ [] := by
    simp [List.take_eq_nil_iff, nonempty]
  have zeros (n : Nat) : ∀ c ∈ List.replicate n '0', Shading.isNumeralChar c = true := by
    intro c member
    rw [List.eq_of_mem_replicate member]
    decide
  simp only [Decimal.layout]
  split
  · -- the exponent has a sign and digits
    rw [List.append_assoc]
    apply Decimal.Positive.append _ (taken 1) (takenSome 0)
    intro c member
    rcases List.mem_append.mp member with member | member
    · split at member
      · cases member
      · rcases List.mem_cons.mp member with rfl | member
        · decide
        · exact dropped 1 c member
    · rcases List.mem_cons.mp member with rfl | member
      · decide
      rcases List.mem_cons.mp member with rfl | member
      · split <;> decide
      · exact Shading.isNumeralChar_of_isDigit
          (Decimal.padLeft_chars (Decimal.digitText_chars _) c member)
  · split
    · apply Decimal.Positive.append ['0']
      · simp
      · simp
      · intro c member
        rcases List.mem_cons.mp member with rfl | member
        · decide
        rcases List.mem_append.mp member with member | member
        · exact zeros _ c member
        · exact numeral c member
    · split
      · rw [List.append_assoc]
        apply Decimal.Positive.append _ digits nonempty
        intro c member
        rcases List.mem_append.mp member with member | member
        · exact zeros _ c member
        · simp only [List.mem_cons, List.not_mem_nil, or_false] at member
          rcases member with rfl | rfl <;> decide
      · apply Decimal.Positive.append _ (taken _) (takenSome _)
        intro c member
        rcases List.mem_cons.mp member with rfl | member
        · decide
        · exact dropped _ c member

theorem Decimal.fixedPlaces_positive (places m : Nat) (q : Int) :
    Decimal.Positive (Decimal.fixedPlaces places m q) := by
  simp only [Decimal.fixedPlaces]
  generalize rounded : Decimal.padLeft (places + 1) _ = digits
  have all : ∀ c ∈ digits, c.isDigit = true := by
    rw [← rounded]
    exact Decimal.padLeft_chars (Decimal.digitText_chars _)
  have length : places < digits.length := by
    rw [← rounded]
    simp only [Decimal.padLeft, List.length_append, List.length_replicate]
    omega
  apply Decimal.Positive.append
  · intro c member
    exact all c (List.mem_of_mem_take member)
  · intro empty
    rw [List.take_eq_nil_iff] at empty
    rcases empty with zero | empty
    · omega
    · simp [empty] at length
  · intro c member
    rcases List.mem_cons.mp member with rfl | member
    · decide
    · exact Shading.isNumeralChar_of_isDigit (all c (List.mem_of_mem_drop member))

theorem Binary64.render_numeral {numeral : Nat → Int → List Char} {x : Binary64}
    (positive : ∀ m q, Decimal.Positive (numeral m q)) (finite : x.IsFinite) :
    Shading.NumeralText (x.render numeral) := by
  cases x with
  | finite negative m q =>
    obtain ⟨chars, c, rest, same, digit⟩ := positive m q
    cases negative with
    | false =>
      have text : (Binary64.render numeral (.finite false m q)).toList = numeral m q := by
        simp [Binary64.render]
      exact ⟨by rw [text]; exact chars, c, rest, by rw [text, same], by simp [Shading.startsNumeral, digit]⟩
    | true =>
      have text : (Binary64.render numeral (.finite true m q)).toList = '-' :: numeral m q := by
        simp [Binary64.render]
      refine ⟨?_, '-', numeral m q, text, by decide⟩
      rw [text]
      intro d member
      rcases List.mem_cons.mp member with rfl | member
      · decide
      · exact chars d member
  | infinite _ => exact finite.elim
  | nan _ => exact finite.elim

def Literal.IsFinite : Literal → Prop
  | .plain x | .fixed x => x.IsFinite

theorem Literal.render_numeral {literal : Literal} (finite : literal.IsFinite) :
    Shading.NumeralText literal.render := by
  cases literal with
  | plain x =>
    apply Binary64.render_numeral _ finite
    intro m q
    split
    · exact Decimal.Positive.append ['0'] (by simp) (by simp) (by simp; decide)
    · exact Decimal.layout_positive _
  | fixed x => exact Binary64.render_numeral (Decimal.fixedPlaces_positive 5) finite

namespace Code

open Shading

def term : Code → Term
  | var name => .name name
  | literal numeral => .numeral numeral.render
  | splat shape numeral => .splat shape (.numeral numeral.render)
  | join shape first second => .pair shape first.term second.term
  | compose x y z w => .quad .vec4 x.term y.term z.term w.term
  | swizzle operand lanes => .swizzle operand.term lanes
  | clamp operand low high => .clamp operand.term low.term high.term
  | sample texture sampler => .sample texture sampler (.name "uv")

/-- Code that lanes can be picked from in writing: a numeral has a point of its own. -/
def IsPrimary : Code → Prop
  | literal _ | swizzle .. => False
  | _ => True

def Proper : Code → Prop
  | var name => Word name
  | literal numeral => numeral.IsFinite
  | splat shape numeral => shape ≠ .float ∧ numeral.IsFinite
  | join shape first second => shape ≠ .float ∧ first.Proper ∧ second.Proper
  | compose x y z w => x.Proper ∧ y.Proper ∧ z.Proper ∧ w.Proper
  | swizzle operand lanes => operand.Proper ∧ operand.IsPrimary ∧ ∀ c ∈ lanes.toList, c.isAlpha = true
  | clamp operand low high => operand.Proper ∧ low.Proper ∧ high.Proper
  | sample texture sampler => (∀ c ∈ texture.toList, c ≠ ',') ∧ ∀ c ∈ sampler.toList, c ≠ ','

def levels : Code → Nat
  | var _ | literal _ => 1
  | splat .. | sample .. => 2
  | join _ first second => max first.levels second.levels + 1
  | compose x y z w => max (max x.levels y.levels) (max z.levels w.levels) + 1
  | swizzle operand _ => operand.levels
  | clamp operand low high => max operand.levels (max low.levels high.levels) + 1

theorem levels_pos (code : Code) : 0 < code.levels := by
  induction code with
  | swizzle _ _ ih => exact ih
  | _ => simp [levels]

theorem word_uv : Word "uv" :=
  ⟨List.all_eq_true.mp (by decide), 'u', ['v'], by decide, by decide⟩

theorem word_clamp : Word "clamp" :=
  ⟨List.all_eq_true.mp (by decide), 'c', ['l', 'a', 'm', 'p'], by decide, by decide⟩

theorem word_textureSample : Word "textureSample" :=
  ⟨List.all_eq_true.mp (by decide), 't', ['e', 'x', 't', 'u', 'r', 'e', 'S', 'a', 'm', 'p', 'l', 'e'], by decide,
    by decide⟩

def Reads (argument : Reader) (code : Code) : Prop :=
  ∀ rest, Ends rest → argument (code.render.toList ++ rest) = some (code.term, rest)

theorem primary?_vector {shape : Shape} (vector : shape ≠ .float) (argument : Reader) (rest : List Char) :
    primary? argument (shape.typeText.toList ++ '(' :: rest) = vector? argument shape rest := by
  have start (name : String) (word : Word name) (named : vectorShape? name = some shape) :
      primary? argument (name.toList ++ '<' :: 'f' :: '3' :: '2' :: '>' :: '(' :: rest) =
        vector? argument shape rest := by
    rw [primary?_word word argument (by simp; decide)]
    simp [word?, named, after?]
  cases shape with
  | float => exact absurd rfl vector
  | vec2 => exact start "vec2" ⟨List.all_eq_true.mp (by decide), 'v', ['e', 'c', '2'], by decide, by decide⟩ rfl
  | vec3 => exact start "vec3" ⟨List.all_eq_true.mp (by decide), 'v', ['e', 'c', '3'], by decide, by decide⟩ rfl
  | vec4 => exact start "vec4" ⟨List.all_eq_true.mp (by decide), 'v', ['e', 'c', '4'], by decide, by decide⟩ rfl

theorem primary?_splat {shape : Shape} {numeral : Literal} {argument : Reader} (vector : shape ≠ .float)
    (reads : (literal numeral).Reads argument) (rest : List Char) :
    primary? argument ((splat shape numeral).render.toList ++ rest) = some ((splat shape numeral).term, rest) := by
  have inner : argument (numeral.render.toList ++ ')' :: rest) = some (.numeral numeral.render, ')' :: rest) :=
    reads _ (ends_close rest)
  have text : (splat shape numeral).render.toList ++ rest =
      shape.typeText.toList ++ '(' :: (numeral.render.toList ++ ')' :: rest) := by
    simp
  rw [text, primary?_vector vector]
  simp [vector?, inner, after?, term]

theorem primary?_join {shape : Shape} {first second : Code} {argument : Reader} (vector : shape ≠ .float)
    (left : first.Reads argument) (right : second.Reads argument) (rest : List Char) :
    primary? argument ((join shape first second).render.toList ++ rest) =
      some ((join shape first second).term, rest) := by
  have inner := right _ (ends_close rest)
  have outer := left _ (ends_comma (' ' :: (second.render.toList ++ ')' :: rest)))
  have text : (join shape first second).render.toList ++ rest =
      shape.typeText.toList ++ '(' :: (first.render.toList ++ ',' :: ' ' :: (second.render.toList ++ ')' :: rest)) := by
    simp
  rw [text, primary?_vector vector]
  simp [vector?, outer, inner, nextArgument?_append, after?, term]

theorem primary?_compose {x y z w : Code} {argument : Reader} (hx : x.Reads argument) (hy : y.Reads argument)
    (hz : z.Reads argument) (hw : w.Reads argument) (rest : List Char) :
    primary? argument ((compose x y z w).render.toList ++ rest) = some ((compose x y z w).term, rest) := by
  have fourth := hw _ (ends_close rest)
  have third := hz _ (ends_comma (' ' :: (w.render.toList ++ ')' :: rest)))
  have second := hy _ (ends_comma (' ' :: (z.render.toList ++ ',' :: ' ' :: (w.render.toList ++ ')' :: rest))))
  have first := hx _ (ends_comma (' ' :: (y.render.toList ++ ',' :: ' ' ::
    (z.render.toList ++ ',' :: ' ' :: (w.render.toList ++ ')' :: rest)))))
  have text : (compose x y z w).render.toList ++ rest =
      Shape.vec4.typeText.toList ++ '(' :: (x.render.toList ++ ',' :: ' ' :: (y.render.toList ++ ',' :: ' ' ::
        (z.render.toList ++ ',' :: ' ' :: (w.render.toList ++ ')' :: rest)))) := by
    simp [Shape.typeText]
  rw [text, primary?_vector (by decide)]
  simp [vector?, first, second, third, fourth, nextArgument?_append, after?, term]

theorem primary?_clamp {operand low high : Code} {argument : Reader} (ho : operand.Reads argument)
    (hl : low.Reads argument) (hh : high.Reads argument) (rest : List Char) :
    primary? argument ((clamp operand low high).render.toList ++ rest) = some ((clamp operand low high).term, rest) := by
  have third := hh _ (ends_close rest)
  have second := hl _ (ends_comma (' ' :: (high.render.toList ++ ')' :: rest)))
  have first := ho _ (ends_comma (' ' :: (low.render.toList ++ ',' :: ' ' :: (high.render.toList ++ ')' :: rest))))
  have text : (clamp operand low high).render.toList ++ rest =
      "clamp".toList ++ '(' :: (operand.render.toList ++ ',' :: ' ' :: (low.render.toList ++ ',' :: ' ' ::
        (high.render.toList ++ ')' :: rest))) := by
    simp
  rw [text, primary?_word word_clamp argument (by simp; decide)]
  simp [word?, call?, clamp?, first, second, third, nextArgument?_append, after?, term]

theorem primary?_sample {texture sampler : String} {argument : Reader} (reads : (var "uv").Reads argument)
    (plainTexture : ∀ c ∈ texture.toList, c ≠ ',') (plainSampler : ∀ c ∈ sampler.toList, c ≠ ',')
    (rest : List Char) :
    primary? argument ((sample texture sampler).render.toList ++ rest) =
      some ((sample texture sampler).term, rest) := by
  have third : argument ('u' :: 'v' :: ')' :: rest) = some (.name "uv", ')' :: rest) := reads _ (ends_close rest)
  have text : (sample texture sampler).render.toList ++ rest =
      "textureSample".toList ++ '(' :: (texture.toList ++ ',' :: ' ' :: (sampler.toList ++ ',' :: ' ' ::
        'u' :: 'v' :: ')' :: rest)) := by
    simp
  obtain ⟨firstTaken, firstLeft⟩ := span_append (p := (· != ',')) (',' :: ' ' :: (sampler.toList ++ ',' :: ' ' ::
    'u' :: 'v' :: ')' :: rest)) (by simpa using plainTexture) (by simp)
  obtain ⟨secondTaken, secondLeft⟩ := span_append (p := (· != ',')) (',' :: ' ' ::
    'u' :: 'v' :: ')' :: rest) (by simpa using plainSampler) (by simp)
  rw [text, primary?_word word_textureSample argument (by simp; decide)]
  simp [word?, call?, sample?, firstTaken, firstLeft, secondTaken, secondLeft, third, nextArgument?_append, after?, term]

theorem reads_literal {numeral : Literal} (finite : numeral.IsFinite) (depth : Nat) :
    (literal numeral).Reads (term? (depth + 1)) := by
  intro rest ends
  have front := primary?_numeral (Literal.render_numeral finite) (term? depth) ends
  simp [term?, front, ends.suffix_eq, term]

theorem reads_var {name : String} (word : Word name) (depth : Nat) : (var name).Reads (term? (depth + 1)) := by
  intro rest ends
  have front := primary?_name word (term? depth) ends.breaks
  simp [term?, front, ends.suffix_eq, term]

def ReadsWhole (code : Code) : Prop :=
  ∀ depth, code.levels ≤ depth → code.Reads (term? depth)

def ReadsFront (code : Code) : Prop :=
  ∀ depth rest, code.levels ≤ depth + 1 → Breaks rest →
    primary? (term? depth) (code.render.toList ++ rest) = some (code.term, rest)

theorem ReadsFront.whole {code : Code} (front : code.ReadsFront) : code.ReadsWhole := by
  intro depth enough rest ends
  obtain ⟨less, rfl⟩ : ∃ less, depth = less + 1 := ⟨depth - 1, by have := code.levels_pos; omega⟩
  simp only [term?, front less rest enough ends.breaks, Option.bind_eq_bind, Option.bind_some, ends.suffix_eq,
    pure]

theorem ReadsFront.swizzle {operand : Code} {lanes : String} (front : operand.ReadsFront)
    (letters : ∀ c ∈ lanes.toList, c.isAlpha = true) : (swizzle operand lanes).ReadsWhole := by
  intro depth enough rest ends
  obtain ⟨less, rfl⟩ : ∃ less, depth = less + 1 :=
    ⟨depth - 1, by have := (Code.swizzle operand lanes).levels_pos; omega⟩
  have stop : ∀ c ∈ rest.head?, c.isAlpha = false := by
    intro c member
    rcases ends c member with rfl | rfl | rfl <;> decide
  obtain ⟨taken, left⟩ := span_append rest letters stop
  have text : (Code.swizzle operand lanes).render.toList ++ rest =
      operand.render.toList ++ '.' :: (lanes.toList ++ rest) := by
    simp
  rw [text]
  simp [term?, front less _ enough (breaks_point (lanes.toList ++ rest)), suffix, taken, left, term]

/-- By induction on code: its parts are read whole, and what lanes are picked from is read up to the point. -/
theorem Proper.reads {code : Code} (proper : code.Proper) :
    code.ReadsWhole ∧ (code.IsPrimary → code.ReadsFront) := by
  have primary {code : Code} (front : code.ReadsFront) : code.ReadsWhole ∧ (code.IsPrimary → code.ReadsFront) :=
    ⟨front.whole, fun _ => front⟩
  induction code with
  | var name => exact primary (fun depth rest _ breaks => primary?_name proper _ breaks)
  | literal numeral =>
    refine ⟨?_, False.elim⟩
    intro depth enough
    obtain ⟨less, rfl⟩ : ∃ less, depth = less + 1 := ⟨depth - 1, by simp only [levels] at enough; omega⟩
    exact reads_literal proper less
  | splat shape numeral =>
    apply primary
    intro depth rest enough breaks
    obtain ⟨less, rfl⟩ : ∃ less, depth = less + 1 := ⟨depth - 1, by simp only [levels] at enough; omega⟩
    exact primary?_splat proper.1 (reads_literal proper.2 less) rest
  | join shape first second ihf ihs =>
    apply primary
    intro depth rest enough breaks
    simp only [levels] at enough
    exact primary?_join proper.1 ((ihf proper.2.1).1 depth (by omega)) ((ihs proper.2.2).1 depth (by omega)) rest
  | compose x y z w ihx ihy ihz ihw =>
    apply primary
    intro depth rest enough breaks
    simp only [levels] at enough
    exact primary?_compose ((ihx proper.1).1 depth (by omega)) ((ihy proper.2.1).1 depth (by omega))
      ((ihz proper.2.2.1).1 depth (by omega)) ((ihw proper.2.2.2).1 depth (by omega)) rest
  | swizzle operand lanes ih => exact ⟨((ih proper.1).2 proper.2.1).swizzle proper.2.2, False.elim⟩
  | clamp operand low high iho ihl ihh =>
    apply primary
    intro depth rest enough breaks
    simp only [levels] at enough
    exact primary?_clamp ((iho proper.1).1 depth (by omega)) ((ihl proper.2.1).1 depth (by omega))
      ((ihh proper.2.2).1 depth (by omega)) rest
  | sample texture sampler =>
    apply primary
    intro depth rest enough breaks
    obtain ⟨less, rfl⟩ : ∃ less, depth = less + 1 := ⟨depth - 1, by simp only [levels] at enough; omega⟩
    exact primary?_sample (reads_var word_uv less) proper.1 proper.2 rest

theorem Proper.levels_le {code : Code} (proper : code.Proper) : code.levels ≤ code.render.toList.length := by
  have comma : ", ".toList.length = 2 := rfl
  have close : ")".toList.length = 1 := rfl
  induction code with
  | var name =>
    obtain ⟨c, rest, same, _⟩ := Word.start proper
    simp [levels, same]
  | literal numeral =>
    obtain ⟨c, rest, same, _⟩ := (Literal.render_numeral proper).start
    simp [levels, same]
  | splat shape numeral =>
    have bracket : "(".toList.length = 1 := rfl
    simp only [levels, render_splat, String.toList_append, List.length_append]
    omega
  | join shape first second ihf ihs =>
    have := ihf proper.2.1
    have := ihs proper.2.2
    simp only [levels, render_join, String.toList_append, List.length_append]
    omega
  | compose x y z w ihx ihy ihz ihw =>
    have := ihx proper.1
    have := ihy proper.2.1
    have := ihz proper.2.2.1
    have := ihw proper.2.2.2
    simp only [levels, render_compose, String.toList_append, List.length_append]
    omega
  | swizzle operand lanes ih =>
    have := ih proper.1
    simp only [levels, render_swizzle, String.toList_append, List.length_append]
    omega
  | clamp operand low high iho ihl ihh =>
    have := iho proper.1
    have := ihl proper.2.1
    have := ihh proper.2.2
    simp only [levels, render_clamp, String.toList_append, List.length_append]
    omega
  | sample texture sampler =>
    have front : "textureSample(".toList.length = 14 := rfl
    simp only [levels, render_sample, String.toList_append, List.length_append]
    omega

theorem Proper.read_render {code : Code} (proper : code.Proper) : Term.read? code.render = some code.term := by
  have enough : code.levels ≤ code.render.length + 1 := by
    have := proper.levels_le
    simp only [String.length_toList] at this
    omega
  have read := proper.reads.1 _ enough [] ends_nil
  rw [List.append_nil] at read
  simp [Term.read?, read]

theorem Proper.read_statement {code : Code} (proper : code.Proper) {name : String} (word : Word name) :
    readStatement? (letStatement name code.render) = some (name, code.term) := by
  have enough : code.levels ≤ (letStatement name code.render).length + 1 := by
    have := proper.levels_le
    rw [← String.length_toList]
    simp only [letStatement, String.toList_append, List.length_append]
    omega
  have read := proper.reads.1 _ enough [';'] (ends_semicolon [])
  obtain ⟨taken, left⟩ := span_append (' ' :: '=' :: ' ' :: (code.render.toList ++ [';'])) word.chars (by simp; decide)
  have text : (letStatement name code.render).toList =
      'l' :: 'e' :: 't' :: ' ' :: (name.toList ++ ' ' :: '=' :: ' ' :: (code.render.toList ++ [';'])) := by
    simp [letStatement]
  simp [readStatement?, text, after?, taken, left, read]

end Code

end ShaderGraph
