import Mathlib.Data.List.Forall2
import ShaderGraph.Proofs.Names

namespace ShaderGraph

namespace Shading

namespace Term

def rename (names : String → String) : Term → Term
  | name ident => .name (names ident)
  | numeral text => .numeral text
  | splat shape operand => .splat shape (operand.rename names)
  | pair shape first second => .pair shape (first.rename names) (second.rename names)
  | quad shape first second third fourth =>
    .quad shape (first.rename names) (second.rename names) (third.rename names) (fourth.rename names)
  | swizzle operand letters => .swizzle (operand.rename names) letters
  | clamp operand low high => .clamp (operand.rename names) (low.rename names) (high.rename names)
  | sample texture sampler coordinates => .sample texture sampler (coordinates.rename names)

def write : Term → String
  | name ident => ident
  | numeral text => text
  | splat shape operand => shape.typeText ++ "(" ++ operand.write ++ ")"
  | pair shape first second => shape.typeText ++ "(" ++ first.write ++ ", " ++ second.write ++ ")"
  | quad shape first second third fourth =>
    shape.typeText ++ "(" ++ first.write ++ ", " ++ second.write ++ ", " ++ third.write ++ ", " ++ fourth.write ++ ")"
  | swizzle operand letters => operand.write ++ "." ++ letters
  | clamp operand low high => "clamp(" ++ operand.write ++ ", " ++ low.write ++ ", " ++ high.write ++ ")"
  | sample texture sampler coordinates =>
    "textureSample(" ++ texture ++ ", " ++ sampler ++ ", " ++ coordinates.write ++ ")"

def isQuad : Term → Bool
  | quad .. => true
  | _ => false

theorem mentions_rename (names : String → String) (term : Term) :
    (term.rename names).mentions = term.mentions.map names := by
  induction term <;> simp_all [rename, mentions]

theorem rename_rename (names others : String → String) (term : Term) :
    (term.rename names).rename others = term.rename (others ∘ names) := by
  induction term <;> simp_all [rename]

theorem rename_congr {names others : String → String} {term : Term}
    (same : ∀ name ∈ term.mentions, names name = others name) : term.rename names = term.rename others := by
  induction term <;> simp_all [rename, mentions]

theorem eq_of_rename_eq_self {names : String → String} {term : Term} (same : term.rename names = term) :
    ∀ name ∈ term.mentions, names name = name := by
  have mapped := mentions_rename names term
  rw [same] at mapped
  intro name member
  exact List.map_inj_left.mp (mapped.symm.trans (List.map_id' _).symm) name member

theorem isQuad_rename (names : String → String) (term : Term) : (term.rename names).isQuad = term.isQuad := by
  cases term <;> rfl

end Term

def renamed (names : String → String) : Value → Value
  | .text text => match readStatement? text with
    | some (name, term) => .text (letStatement (names name) (term.rename names).write)
    | none => .text text
  | statement => statement

theorem Binding.Reads.renamed {binding : Binding} {term : Term} (reads : binding.Reads term)
    (names : String → String) :
    renamed names (.text binding.text) = .text (letStatement (names binding.name) (term.rename names).write) := by
  simp only [Shading.renamed, reads.statement_eq]

theorem texts_injective {left right : List Binding} (words : ∀ binding ∈ left, Word binding.name)
    (otherWords : ∀ binding ∈ right, Word binding.name) (same : texts left = texts right) : left = right := by
  induction left generalizing right with
  | nil => exact (List.map_eq_nil_iff.mp same.symm).symm
  | cons binding left ih =>
    cases right with
    | nil => cases same
    | cons other right =>
      simp only [texts, List.map_cons, List.cons.injEq, Value.text.injEq] at same
      have first := Binding.text_injective (words binding (by simp)) (otherWords other (by simp)) same.1
      have rest := ih (fun next member => words next (by simp [member]))
        (fun next member => otherWords next (by simp [member])) same.2
      rw [first, rest]

theorem Ordered.mentions {known : List String} {body : List Binding} (ordered : Ordered known body) {binding : Binding}
    (member : binding ∈ body) {term : Term} (reads : binding.Reads term) :
    ∀ name ∈ term.mentions, name ∈ body.map Binding.name ++ known := by
  obtain ⟨front, back, rfl⟩ := List.append_of_mem member
  obtain ⟨⟨own, ownReads, mentions⟩, _⟩ := (ordered_append.mp ordered).2
  intro name mentioned
  rw [reads.unique ownReads] at mentioned
  have known := mentions name mentioned
  simp only [List.map_append, List.map_cons, List.mem_append] at known ⊢
  grind

theorem exists_of_forall₂ {related : Binding → Binding → Prop} {own own' : List Binding}
    (all : List.Forall₂ related own own') {binding : Binding} (member : binding ∈ own) :
    ∃ binding' ∈ own', related binding binding' := by
  induction all with
  | nil => cases member
  | @cons first first' _ _ here _ ih =>
    rcases List.mem_cons.mp member with rfl | later
    · exact ⟨first', List.mem_cons_self, here⟩
    · obtain ⟨binding', inside, holds⟩ := ih later
      exact ⟨binding', List.mem_cons_of_mem _ inside, holds⟩

theorem forall₂_unite {related : Binding → Binding → Prop} (unique : Relator.BiUnique related)
    {own own' other other' : List Binding} (left : List.Forall₂ related own own')
    (right : List.Forall₂ related other other') : List.Forall₂ related (unite own other) (unite own' other') := by
  induction right generalizing own own' with
  | nil => exact left
  | @cons binding binding' _ _ here _ ih =>
    simp only [unite, List.foldl_cons] at ih ⊢
    have known : binding ∈ own ↔ binding' ∈ own' := List.rel_mem unique here left
    by_cases member : binding ∈ own
    · rw [if_pos member, if_pos (known.mp member)]
      exact ih left
    · rw [if_neg member, if_neg (mt known.mpr member)]
      exact ih (List.rel_append left (.cons here .nil))

end Shading

open Shading

def Expression.rename (names : String → String) (e : Expression) : Expression :=
  ⟨e.statements.map (renamed names), e.shape, names e.var⟩

/-- Other names for what an expression binds, each a different one and none a variable of the mesh; all else keeps its
    name. -/
structure Expression.Renames (e : Expression) (names : String → String) : Prop where
  injective : ∀ first ∈ boundNames e.statements ++ NameTable.meshNames,
    ∀ second ∈ boundNames e.statements ++ NameTable.meshNames, names first = names second → first = second
  fixed : ∀ name, name ∉ boundNames e.statements → names name = name

theorem Code.write_term (code : Code) : code.term.write = code.render := by
  induction code with
  | var name => rfl
  | literal numeral => rfl
  | splat shape numeral => rfl
  | join shape first second ihf ihs =>
    show shape.typeText ++ "(" ++ first.term.write ++ ", " ++ second.term.write ++ ")" = _
    rw [ihf, ihs, render_join]
  | compose x y z w ihx ihy ihz ihw =>
    have first : Shape.vec4.typeText ++ "(" = "vec4<f32>(" := by decide
    show Shape.vec4.typeText ++ "(" ++ x.term.write ++ ", " ++ y.term.write ++ ", " ++ z.term.write ++ ", " ++
      w.term.write ++ ")" = _
    rw [ihx, ihy, ihz, ihw, first, render_compose]
  | swizzle operand lanes ih =>
    show operand.term.write ++ "." ++ lanes = _
    rw [ih, render_swizzle]
  | clamp operand low high iho ihl ihh =>
    show "clamp(" ++ operand.term.write ++ ", " ++ low.term.write ++ ", " ++ high.term.write ++ ")" = _
    rw [iho, ihl, ihh, render_clamp]
  | sample texture sampler =>
    have last : ", uv)" = ", " ++ "uv" ++ ")" := by decide
    show "textureSample(" ++ texture ++ ", " ++ sampler ++ ", " ++ "uv" ++ ")" = _
    rw [render_sample, last]
    simp only [String.append_assoc]

end ShaderGraph
