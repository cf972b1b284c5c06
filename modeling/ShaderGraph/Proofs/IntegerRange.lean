import ShaderGraph.Proofs.Graph.Built

namespace ShaderGraph

theorem roundDiv_bounds (num den : Nat) : num / den ≤ roundDiv num den ∧ roundDiv num den ≤ num / den + 1 := by
  simp only [roundDiv]
  split
  · omega
  · omega
  · split <;> omega

theorem lt_roundDiv_iff {num den n : Nat} (positive : 0 < den) (odd : n % 2 = 1) :
    n < roundDiv num den ↔ 2 * (den * n) + den ≤ 2 * num := by
  have whole := Nat.div_add_mod num den
  have rest := Nat.mod_lt num positive
  have bounds := roundDiv_bounds num den
  have apart {a b : Nat} (less : a < b) : den * a + den ≤ den * b := Nat.mul_le_mul_left den less
  have order : n < num / den ∨ n = num / den ∨ num / den < n := by omega
  rcases order with less | rfl | more
  · have := apart less
    omega
  · simp only [roundDiv]
    split
    · rename_i side
      rw [Nat.compare_eq_lt] at side
      omega
    · rename_i side
      rw [Nat.compare_eq_gt] at side
      omega
    · rename_i side
      rw [Nat.compare_eq_eq] at side
      rw [if_neg (by omega)]
      omega
  · have := apart more
    omega

namespace Binary64

def integerBound : Nat := Nat.pow 2 1024 - Nat.pow 2 970

theorem logRatio_one {num : Nat} (positive : num ≠ 0) : logRatio num 1 = num.log2 := by
  have estimate : (num.log2 : Int) - (1 : Nat).log2 = num.log2 := by
    rw [show (1 : Nat).log2 = 0 from by decide]
    omega
  have least : 1 * Nat.pow 2 (num.log2 : Int).toNat ≤ num * Nat.pow 2 (-(num.log2 : Int)).toNat := by
    have zero : (-(num.log2 : Int)).toNat = 0 := by omega
    rw [zero, Int.toNat_natCast, Nat.one_mul]
    exact Nat.le_trans (Nat.log2_self_le positive) (Nat.le_of_eq (Nat.mul_one num).symm)
  simp only [logRatio, estimate]
  rw [if_pos least]

/-- The number is infinite beyond the greatest exponent. In the last binade before it a significand that is rounded up to
    the next power of two gets there. -/
theorem ofRatio_one_infinite_iff {num : Nat} (negative : Bool) (positive : num ≠ 0) :
    ofRatio negative num 1 = .infinite negative ↔
      1023 < num.log2 ∨ num.log2 = 1023 ∧ roundDiv num (Nat.pow 2 971) = Nat.pow 2 53 := by
  have exponent : max ((num.log2 : Int) - 52) leastExponent = num.log2 - 52 := by
    simp only [leastExponent]
    omega
  simp only [ofRatio, positive, if_false, logRatio_one positive, exponent, greatestExponent, precision]
  by_cases top : num.log2 = 1023
  · have numerator : (-((num.log2 : Int) - 52)).toNat = 0 := by omega
    have denominator : ((num.log2 : Int) - 52).toNat = 971 := by omega
    have unscaled : num * Nat.pow 2 0 = num := Nat.mul_one num
    have scaled (k : Nat) : 1 * Nat.pow 2 k = Nat.pow 2 k := Nat.one_mul _
    rw [denominator, scaled, numerator, unscaled]
    generalize roundDiv num (Nat.pow 2 971) = rounded
    generalize Nat.pow 2 53 = full
    split <;> simp_all
  · split <;> split <;> simp <;> omega

/-- The greatest significand is odd, so from the half above it on it is rounded up. -/
theorem roundDiv_top_iff {num : Nat} (top : num < Nat.pow 2 1024) :
    roundDiv num (Nat.pow 2 971) = Nat.pow 2 53 ↔ integerBound ≤ num := by
  have unit : Nat.pow 2 971 = 2 * Nat.pow 2 970 := by decide +kernel
  have power : Nat.pow 2 1024 = 18014398509481984 * Nat.pow 2 970 := by decide +kernel
  have full : Nat.pow 2 53 = 9007199254740992 := by decide +kernel
  have positive : 0 < Nat.pow 2 970 := by decide +kernel
  have passed : 9007199254740991 < roundDiv num (Nat.pow 2 971) ↔ _ := lt_roundDiv_iff (by omega) (by decide)
  have most : roundDiv num (Nat.pow 2 971) ≤ 9007199254740992 := by
    have near := (roundDiv_near num (Nat.pow 2 971) (by omega)).1
    apply Nat.le_of_not_lt
    intro more
    have := Nat.mul_le_mul_right (Nat.pow 2 971) more
    omega
  rw [integerBound, full]
  omega

theorem ofInt?_eq_none_iff (n : Int) : ofInt? n = none ↔ integerBound ≤ n.natAbs := by
  have beyond : ofInt? n = none ↔ ofRatio (decide (n < 0)) n.natAbs 1 = .infinite (decide (n < 0)) := by
    rcases ofRatio_finite_or (decide (n < 0)) n.natAbs 1 with finite | infinite
    · cases rounded : ofRatio (decide (n < 0)) n.natAbs 1 with
      | finite => simp [ofInt?, rounded]
      | infinite => simp [rounded, IsFinite] at finite
      | nan => simp [rounded, IsFinite] at finite
    · simp [ofInt?, infinite]
  have small : Nat.pow 2 1023 ≤ integerBound := by decide +kernel
  have large : integerBound ≤ Nat.pow 2 1024 := by decide +kernel
  rw [beyond]
  by_cases zero : n.natAbs = 0
  · have positive : 0 < Nat.pow 2 1023 := by decide +kernel
    simp only [zero, ofRatio, if_true, reduceCtorEq, false_iff]
    omega
  · rw [ofRatio_one_infinite_iff _ zero]
    have least : Nat.pow 2 n.natAbs.log2 ≤ n.natAbs := Nat.log2_self_le zero
    have most : n.natAbs < Nat.pow 2 (n.natAbs.log2 + 1) := Nat.lt_log2_self
    have grows {k l : Nat} (le : k ≤ l) : Nat.pow 2 k ≤ Nat.pow 2 l := Nat.pow_le_pow_right (by decide) le
    have order : n.natAbs.log2 < 1023 ∨ n.natAbs.log2 = 1023 ∨ 1023 < n.natAbs.log2 := by omega
    rcases order with below | top | above
    · have := grows (show n.natAbs.log2 + 1 ≤ 1023 from below)
      omega
    · rw [top] at most
      rw [top, roundDiv_top_iff most]
      simp
    · have := grows (show 1024 ≤ n.natAbs.log2 from above)
      omega

end Binary64

namespace Value

def IsFinite (value : Value) : Prop :=
  (∃ n : Int, value = .int n ∧ n.natAbs < Binary64.integerBound) ∨ ∃ x : Binary64, value = .number x ∧ x.IsFinite

def IsHuge (value : Value) : Prop :=
  ∃ n : Int, value = .int n ∧ Binary64.integerBound ≤ n.natAbs

theorem toFinite_ok_iff {value : Value} : (∃ x, value.toFinite = .ok x) ↔ value.IsFinite := by
  cases value with
  | int n =>
    have bound := Binary64.ofInt?_eq_none_iff n
    cases converted : Binary64.ofInt? n with
    | none => simpa [toFinite, converted, IsFinite] using bound
    | some x => simpa [toFinite, converted, IsFinite] using bound
  | number x => by_cases finite : x.IsFinite <;> simp [toFinite, IsFinite, finite]
  | _ => simp [toFinite, IsFinite]

theorem toFinite_tooLarge_iff {value : Value} : value.toFinite = .error .tooLarge ↔ value.IsHuge := by
  cases value with
  | int n =>
    have bound := Binary64.ofInt?_eq_none_iff n
    cases converted : Binary64.ofInt? n with
    | none => simpa [toFinite, converted, IsHuge] using bound
    | some x => simpa [toFinite, converted, IsHuge] using bound
  | number x => by_cases finite : x.IsFinite <;> simp [toFinite, IsHuge, finite]
  | _ => simp [toFinite, IsHuge]

end Value

end ShaderGraph
