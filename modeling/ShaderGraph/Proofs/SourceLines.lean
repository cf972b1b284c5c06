import ShaderGraph.Proofs.Typing

namespace ShaderGraph

namespace Text

def lines (text : String) : List String := (text.split '\n').toList.map (·.copy)

def behind (front line : String) : String := .ofList (line.toList.drop front.length)

@[simp] theorem behind_append (front rest : String) : behind front (front ++ rest) = rest := by
  simp [behind, ← String.length_toList]

def OneLine (text : String) : Prop := '\n' ∉ text.toList

instance (text : String) : Decidable (OneLine text) := inferInstanceAs (Decidable (_ ∉ _))

@[simp] theorem oneLine_append {front back : String} : OneLine (front ++ back) ↔ OneLine front ∧ OneLine back := by
  simp [OneLine]

theorem oneLine_of_chars {p : Char → Bool} (stop : p '\n' = false) {text : String}
    (chars : ∀ c ∈ text.toList, p c = true) : OneLine text := by
  intro member
  rw [chars _ member] at stop
  cases stop

theorem lines_intercalate {parts : List String} (some : parts ≠ []) (single : ∀ part ∈ parts, OneLine part) :
    lines ("\n".intercalate parts) = parts := by
  have split := String.toList_split_intercalate single
  rw [if_neg some] at split
  exact split

end Text

open Text

theorem Literal.render_oneLine {literal : Literal} (finite : literal.IsFinite) : OneLine literal.render :=
  oneLine_of_chars (by decide) (Literal.render_numeral finite).chars

theorem Shape.typeText_oneLine (shape : Shape) : OneLine shape.typeText := by
  cases shape <;> decide

theorem Shape.lead_oneLine (shape : Shape) : OneLine shape.lead := by
  cases shape <;> decide

theorem Shape.fill_oneLine (shape : Shape) {x : Binary64} (finite : x.IsFinite) : OneLine (shape.fill x).render := by
  have plain : OneLine (Literal.plain x).render := Literal.render_oneLine finite
  have fixed : OneLine (Literal.fixed x).render := Literal.render_oneLine finite
  cases shape with
  | float => exact plain
  | vec2 | vec3 | vec4 =>
    simp only [fill, Code.render_splat, oneLine_append]
    exact ⟨⟨⟨typeText_oneLine _, by decide⟩, fixed⟩, by decide⟩

theorem Shape.convert_oneLine (source target : Shape) {operand : Code} (lined : OneLine operand.render) {pad : Binary64}
    (finite : pad.IsFinite) : OneLine (source.convert target operand pad).render := by
  have fixed : OneLine (Literal.fixed pad).render := Literal.render_oneLine finite
  have padding (missing : Nat) : OneLine (Shape.padding missing pad).render := by
    unfold Shape.padding
    split
    · exact fill_oneLine _ finite
    · exact fill_oneLine _ finite
    · exact fixed
  unfold convert
  split
  · exact lined
  · split
    · simp only [Code.render_join, oneLine_append]
      exact ⟨⟨⟨⟨⟨typeText_oneLine _, by decide⟩, lined⟩, by decide⟩, padding _⟩, by decide⟩
    · simp only [Code.render_swizzle, oneLine_append]
      exact ⟨⟨lined, by decide⟩, lead_oneLine _⟩

theorem Expression.color_oneLine {e : Expression} (lined : OneLine e.var) {alpha : Binary64}
    (finite : alpha.IsFinite) : OneLine (e.color alpha).render := by
  have operand : OneLine e.operand.render := by
    unfold Expression.operand
    split
    · exact Shape.fill_oneLine _ trivial
    · exact lined
  simp only [color, Code.render_join, oneLine_append]
  exact ⟨⟨⟨⟨⟨by decide, by decide⟩, Shape.convert_oneLine _ _ operand trivial⟩, by decide⟩,
    Literal.render_oneLine finite⟩, by decide⟩

structure Expression.Lined (e : Expression) (texts : List String) : Prop where
  statements : e.statements = texts.map .text
  texts : ∀ text ∈ texts, OneLine text
  var : OneLine e.var

namespace Options

theorem slot?_oneLine {value : Value} (slot : (slot? value).isSome) : OneLine value.display := by
  cases value with
  | int n =>
    cases n with
    | ofNat n =>
      have digits : ∀ c ∈ (toString n).toList, c.isDigit = true :=
        fun _ member => NameTable.isDigit_of_mem_digits member
      exact oneLine_of_chars (by decide) digits
    | negSucc n => simp [slot?] at slot
  | _ => simp [slot?] at slot

theorem name?_oneLine {value : Value} (named : (name? value).isSome) : OneLine value.display :=
  oneLine_of_chars (by decide +kernel) (name?_chars named)

structure Lined (options : Options) : Prop where
  valid : options.Valid
  indent : ∃ text, options.indent = .text text ∧ OneLine text
  vertexImport : ∃ text, options.vertexImport = .text text ∧ OneLine text

theorem text_oneLine {value : Value} (text : ∃ text, value = .text text ∧ OneLine text) : OneLine value.display := by
  obtain ⟨text, rfl, single⟩ := text
  exact single

end Options

def Value.isText : Value → Bool
  | .text _ => true
  | _ => false

def Options.Fits (digits : Option Nat) (options : Options) : Prop :=
  ∀ value ∈ Source.shown options, value.writable digits = true

instance (digits : Option Nat) (options : Options) : Decidable (options.Fits digits) :=
  inferInstanceAs (Decidable (∀ value ∈ Source.shown options, _))

/-- There is a bound on the digits of integers, and a value beyond it could not be written. -/
def Overlong {α : Type} (digits : Option Nat) (outcome : Except Error α) : Prop :=
  ∃ limit, digits = some limit ∧ outcome = .error (.overlong limit)

namespace Value

theorem check_fits {digits : Option Nat} {value : Value} (fits : value.writable digits = true) :
    value.check digits = .ok () := check_eq_ok_iff.mpr fits

theorem check_overlong {digits : Option Nat} {value : Value} (beyond : value.writable digits = false) :
    Overlong digits (value.check digits) := by
  cases digits with
  | none => cases beyond
  | some limit =>
    have wide : value.fits limit = false := beyond
    exact ⟨limit, rfl, by simp [check, ensure, wide]⟩

theorem checkAll_overlong {digits : Option Nat} {values : List Value}
    (beyond : ¬∀ value ∈ values, value.writable digits = true) : Overlong digits (checkAll digits values) := by
  induction values with
  | nil => simp at beyond
  | cons value rest ih =>
    cases fits : value.writable digits with
    | false =>
      obtain ⟨limit, bound, stopped⟩ := check_overlong fits
      exact ⟨limit, bound, by rw [checkAll, stopped]; rfl⟩
    | true =>
      rw [List.forall_mem_cons, not_and] at beyond
      obtain ⟨limit, bound, stopped⟩ := ih (beyond fits)
      exact ⟨limit, bound, by rw [checkAll, check_fits fits]; exact stopped⟩

end Value

namespace Source

theorem header_oneLine {options : Options} (lined : options.Lined) : ∀ line ∈ header options, OneLine line := by
  have group := Options.slot?_oneLine lined.valid.group
  have texture := Options.slot?_oneLine lined.valid.texture
  have sampler := Options.slot?_oneLine lined.valid.sampler
  have textureName := Options.name?_oneLine lined.valid.textureName
  have samplerName := Options.name?_oneLine lined.valid.samplerName
  have indent := Options.text_oneLine lined.indent
  have vertexImport := Options.text_oneLine lined.vertexImport
  simp +decide only [header, List.forall_mem_cons, oneLine_append, group, texture, sampler, textureName, samplerName,
    indent, vertexImport]

theorem body_map (digits : Option Nat) (indent : String) (all : List Value) (texts : List String) :
    body digits indent all (texts.map .text) = .ok (texts.map (indent ++ ·)) := by
  induction texts with
  | nil => rfl
  | cons text texts ih => rw [List.map_cons, body, ih]; rfl

theorem body_stops (digits : Option Nat) (indent : String) (all : List Value) {statements : List Value}
    {statement : Value} (first : statements.find? (fun statement => !statement.isText) = some statement) :
    body digits indent all statements = (statement.check digits >>= fun _ =>
      .error (.failure (.statementNotText statement all))) := by
  induction statements with
  | nil => cases first
  | cons next rest ih =>
    cases next with
    | text line =>
      have later : rest.find? (fun statement => !statement.isText) = some statement := by
        simpa [Value.isText] using first
      rw [body, ih later]
      cases statement.check digits <;> rfl
    | _ =>
      simp only [List.find?, Value.isText, Bool.not_false, Option.some.injEq] at first
      subst first
      rfl

def layout (options : Options) (texts : List String) (code : String) : List String :=
  header options ++ texts.map (options.indent.display ++ ·) ++
    [options.indent.display ++ "return " ++ code ++ ";", "\x7d", ""]

theorem layout_oneLine {options : Options} (lined : options.Lined) {texts : List String} {code : String}
    (single : ∀ text ∈ texts, OneLine text) (returned : OneLine code) :
    ∀ line ∈ layout options texts code, OneLine line := by
  have indent := Options.text_oneLine lined.indent
  have body : ∀ line ∈ texts.map (options.indent.display ++ ·), OneLine line := by
    intro line member
    obtain ⟨text, given, rfl⟩ := List.mem_map.mp member
    exact oneLine_append.mpr ⟨indent, single text given⟩
  have last : ∀ line ∈ [options.indent.display ++ "return " ++ code ++ ";", "\x7d", ""], OneLine line := by
    simp +decide [indent, returned]
  exact List.forall_mem_append.mpr ⟨List.forall_mem_append.mpr ⟨header_oneLine lined, body⟩, last⟩

/-- The whole shader of a value: the lines in front, its statements, and the return of its colour. -/
def Complete (options : Options) (e : Expression) (source : String) : Prop :=
  ∃ texts code, e.statements = texts.map .text ∧ e.final .vec4 options.alpha = .ok code ∧
    source = "\n".intercalate (layout options texts code.render)

theorem body_eq_ok {digits : Option Nat} {indent : String} {all statements : List Value} {lines : List String}
    (written : body digits indent all statements = .ok lines) :
    ∃ texts : List String, statements = texts.map .text ∧ lines = texts.map (indent ++ ·) := by
  induction statements generalizing lines with
  | nil =>
    cases written
    exact ⟨[], rfl, rfl⟩
  | cons statement rest ih =>
    cases statement with
    | text line =>
      rw [body] at written
      cases later : body digits indent all rest with
      | error cause =>
        rw [later] at written
        cases written
      | ok more =>
        rw [later] at written
        cases written
        obtain ⟨texts, rfl, rfl⟩ := ih later
        exact ⟨line :: texts, rfl, rfl⟩
    | _ =>
      simp only [body, bind_eq_ok_iff] at written
      obtain ⟨_, _, refused⟩ := written
      cases refused

theorem result_eq_ok {options : Options} {e : Expression} {code : Code} (written : result options e = .ok code) :
    e.final .vec4 options.alpha = .ok code := by
  rw [result] at written
  split at written
  · rename_i final
    cases written
    exact final
  · cases written
  · cases written

theorem render_complete {digits : Option Nat} {options : Options} {e : Expression} {source : String}
    (rendered : render digits options e = .ok source) : Complete options e source := by
  cases written : lines digits options e with
  | error cause =>
    rw [render, written] at rendered
    cases rendered
  | ok all =>
    rw [render, written] at rendered
    cases rendered
    simp only [lines, bind_eq_ok_iff] at written
    obtain ⟨_, _, statements, writes, code, returns, ends⟩ := written
    cases ends
    obtain ⟨texts, same, rfl⟩ := body_eq_ok writes
    exact ⟨texts, code, same, result_eq_ok returns, rfl⟩

theorem render_overlong {digits : Option Nat} {options : Options} (beyond : ¬options.Fits digits) (e : Expression) :
    Overlong digits (render digits options e) := by
  obtain ⟨limit, bound, stopped⟩ := Value.checkAll_overlong beyond
  exact ⟨limit, bound, by rw [render, lines, stopped]; rfl⟩

theorem lines_fits {digits : Option Nat} {options : Options} (fits : options.Fits digits) (e : Expression) :
    lines digits options e = (do
      let statements ← body digits options.indent.display e.statements e.statements
      let code ← result options e
      return header options ++ statements ++ [options.indent.display ++ "return " ++ code.render ++ ";", "\x7d", ""]) := by
  have shown : Value.checkAll digits (shown options) = .ok () := Value.checkAll_eq_ok_iff.mpr fits
  rw [lines, shown]
  rfl

theorem lines_eq {digits : Option Nat} {options : Options} (valid : options.Valid) (fits : options.Fits digits)
    {e : Expression} {texts : List String} (statements : e.statements = texts.map .text) :
    ∃ alpha : Binary64, alpha.IsFinite ∧ e.final .vec4 options.alpha = .ok (e.color alpha) ∧
      lines digits options e = .ok (layout options texts (e.color alpha).render) := by
  obtain ⟨alpha, accepted⟩ := valid.alpha
  obtain ⟨finite, number⟩ := Value.toFinite_ok accepted
  have final : e.final .vec4 options.alpha = .ok (e.color alpha) := by
    rw [Expression.final, number]
    rfl
  refine ⟨alpha, finite, final, ?_⟩
  rw [lines_fits fits, statements, body_map, result, final]
  rfl

/-- The statements and the expression returned, read from the lines by their places: a statement may look like any of
    the lines around it. -/
def read (options : Options) (text : String) : List String × String :=
  let indent := options.indent.display
  match ((Text.lines text).drop (header options).length).reverse with
  | _ :: _ :: last :: statements =>
    (statements.reverse.map (behind indent), .ofList (behind (indent ++ "return ") last).toList.dropLast)
  | _ => ([], "")

theorem read_eq {options : Options} {text code : String} {texts : List String}
    (split : Text.lines text = layout options texts code) : read options text = (texts, code) := by
  have last : options.indent.display ++ "return " ++ code ++ ";" =
      options.indent.display ++ "return " ++ (code ++ ";") := String.append_assoc
  have rest : ((Text.lines text).drop (header options).length).reverse =
      "" :: "\x7d" :: (options.indent.display ++ "return " ++ (code ++ ";")) ::
        (texts.map (options.indent.display ++ ·)).reverse := by
    rw [split, layout, List.append_assoc, List.drop_left, last]
    simp
  simp only [read, rest, List.reverse_reverse, List.map_map, behind_append]
  simp [Function.comp_def]

/-- What is written under the options can be read back, and what cannot be written is refused. Integers that have too many
    digits are refused first, in the options and in a statement. -/
structure Legible (digits : Option Nat) (options : Options) : Prop where
  front : (header options).length = 10
  written : options.Fits digits → ∀ (e : Expression) (texts : List String), e.Lined texts → ∃ code text,
    e.final .vec4 options.alpha = .ok code ∧ render digits options e = .ok text ∧
    Text.lines text = layout options texts code.render ∧ read options text = (texts, code.render)
  determined : ∀ (e other : Expression) (texts others : List String), e.Lined texts → other.Lined others →
    ∀ text, render digits options e = .ok text → render digits options other = .ok text →
      e.statements = other.statements ∧ ∃ code otherCode, e.final .vec4 options.alpha = .ok code ∧
        other.final .vec4 options.alpha = .ok otherCode ∧ code.render = otherCode.render
  refused : options.Fits digits → ∀ e : Expression, (∃ statement ∈ e.statements, statement.isText = false) →
    ∃ statement, e.statements.find? (fun statement => !statement.isText) = some statement ∧
      (statement.writable digits = true →
        render digits options e = .error (.failure (.statementNotText statement e.statements)) ∧
        (Failure.statementNotText statement e.statements).family = .emission) ∧
      (statement.writable digits = false → Overlong digits (render digits options e))
  overlong : ¬options.Fits digits → ∀ e : Expression, Overlong digits (render digits options e)

theorem render_eq {digits : Option Nat} {options : Options} (lined : options.Lined) (fits : options.Fits digits)
    {e : Expression} {texts : List String} (single : e.Lined texts) :
    ∃ code text, e.final .vec4 options.alpha = .ok code ∧ render digits options e = .ok text ∧
      Text.lines text = layout options texts code.render := by
  obtain ⟨alpha, finite, final, written⟩ := lines_eq lined.valid fits single.statements
  refine ⟨e.color alpha, _, final, by rw [render, written]; rfl, ?_⟩
  have returned := Expression.color_oneLine single.var finite
  exact Text.lines_intercalate (by simp [layout]) (layout_oneLine lined single.texts returned)

theorem fits_of_render {digits : Option Nat} {options : Options} {e : Expression} {text : String}
    (rendered : render digits options e = .ok text) : options.Fits digits := by
  by_contra beyond
  obtain ⟨limit, _, stopped⟩ := render_overlong beyond e
  rw [rendered] at stopped
  cases stopped

theorem render_stops {digits : Option Nat} {options : Options} (fits : options.Fits digits) {e : Expression}
    {statement : Value} (first : e.statements.find? (fun statement => !statement.isText) = some statement) :
    render digits options e = (statement.check digits >>= fun _ =>
      .error (.failure (.statementNotText statement e.statements))) := by
  rw [render, lines_fits fits, body_stops _ _ _ first]
  cases statement.check digits <;> rfl

def disguises : List String := [") -> @location(0) vec4<f32> \x7b", "    return color;", "\x7d", "", "@fragment"]

end Source

end ShaderGraph
