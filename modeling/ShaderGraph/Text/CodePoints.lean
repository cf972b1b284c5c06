
namespace ShaderGraph.Text

abbrev CodeRange := Nat × Nat

def CodeRange.Holds (range : CodeRange) (code : Nat) : Prop :=
  range.1 ≤ code ∧ code ≤ range.2

instance (range : CodeRange) (code : Nat) : Decidable (range.Holds code) :=
  inferInstanceAs (Decidable (_ ∧ _))

def inRanges (ranges : List CodeRange) (c : Char) : Bool :=
  ranges.any (fun range => decide (range.Holds c.toNat))

theorem inRanges_iff {ranges : List CodeRange} {c : Char} :
    inRanges ranges c = true ↔ ∃ range ∈ ranges, range.Holds c.toNat := by
  simp [inRanges]

def Ascending : List CodeRange → Bool
  | [] => true
  | [range] => decide (range.1 ≤ range.2)
  | range :: next :: rest =>
    decide (range.1 ≤ range.2 ∧ range.2 + 1 < next.1) && Ascending (next :: rest)

end ShaderGraph.Text
