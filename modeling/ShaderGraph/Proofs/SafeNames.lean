import Mathlib.Data.Set.Operations
import ShaderGraph.Proofs.Issuing

namespace ShaderGraph

namespace Identifier

/-- Letters, digits and single low lines, without a digit in front, and not a low line alone. -/
structure Safe (name : String) : Prop where
  nonempty : name ≠ ""
  chars : ∀ c ∈ name.toList, c.isAlphanum = true ∨ c = '_'
  start : ∀ c, name.toList.head? = some c → c.isDigit = false
  single : ¬['_', '_'] <:+: name.toList
  more : name ≠ "_"

theorem doubled_prefix_iff (c : Char) (rest : List Char) :
    ['_', '_'] <+: c :: rest ↔ c = '_' ∧ rest.head? = some '_' := by
  cases rest with
  | nil => simp [List.cons_prefix_cons]
  | cons d rest => simp [List.cons_prefix_cons, eq_comm]

theorem collapse_eq_self_iff (text : List Char) : collapse text = text ↔ ¬['_', '_'] <:+: text := by
  induction text with
  | nil => simp [collapse]
  | cons c rest ih =>
    rw [List.infix_cons_iff, doubled_prefix_iff, collapse]
    split
    · rename_i double
      have shorter : collapse rest ≠ c :: rest := by
        intro same
        have fits := (collapse_sublist rest).length_le
        rw [same, List.length_cons] at fits
        omega
      exact iff_of_false shorter (not_not_intro (.inl double))
    · rename_i apart
      rw [List.cons.injEq, ih]
      simp [apart]

theorem safe_iff (name : String) :
    Safe name ↔ Shading.Word name ∧ collapse name.toList = name.toList ∧ name.toList ≠ ['_'] := by
  have low : name.toList = ['_'] ↔ name = "_" := by rw [← String.toList_inj]; rfl
  constructor
  · intro safe
    refine ⟨⟨?_, ?_⟩, (collapse_eq_self_iff _).mpr safe.single, fun alone => safe.more (low.mp alone)⟩
    · intro c member
      simpa [isNameChar] using safe.chars c member
    · cases letters : name.toList with
      | nil => exact absurd (String.toList_eq_nil_iff.mp letters) safe.nonempty
      | cons c rest => exact ⟨c, rest, rfl, safe.start c (by rw [letters, List.head?_cons])⟩
  · rintro ⟨word, collapsed, other⟩
    obtain ⟨first, rest, letters, notDigit⟩ := word.start
    constructor
    · rintro rfl
      cases letters
    · intro c member
      simpa [isNameChar] using word.chars c member
    · intro c head
      rw [letters, List.head?_cons, Option.some.injEq] at head
      rw [← head]
      exact notDigit
    · exact (collapse_eq_self_iff _).mp collapsed
    · exact fun same => other (low.mpr same)

theorem safe_sanitize (name : String) : Safe (sanitize name) :=
  (safe_iff _).mpr ⟨sanitize_word name, collapse_sanitize name, sanitize_ne_low name⟩

theorem sanitize_eq_self_iff (name : String) : sanitize name = name ↔ Safe name := by
  constructor
  · intro same
    rw [← same]
    exact safe_sanitize name
  · intro safe
    obtain ⟨word, collapsed, other⟩ := (safe_iff name).mp safe
    exact sanitize_of_word word collapsed other

/-- Every text becomes a safe name, the safe names are the texts that stay as they are, and there are no other results. -/
theorem sanitize_retraction :
    (∀ name, Safe (sanitize name)) ∧ (∀ name, sanitize name = name ↔ Safe name) ∧
      (∀ name, sanitize (sanitize name) = sanitize name) ∧ Set.range sanitize = {name | Safe name} := by
  refine ⟨safe_sanitize, sanitize_eq_self_iff, sanitize_sanitize, ?_⟩
  ext name
  constructor
  · rintro ⟨source, rfl⟩
    exact safe_sanitize source
  · intro safe
    exact ⟨name, (sanitize_eq_self_iff name).mpr safe⟩

example : sanitize "é_.1" = "_1" ∧ sanitize "1__" = "_1_" ∧ sanitize "._." = "v" := by decide

end Identifier

end ShaderGraph
