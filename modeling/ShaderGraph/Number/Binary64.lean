
namespace ShaderGraph

/-- A double-precision number. Each NaN carries a mark: a NaN is the same as itself and as no other NaN. -/
inductive Binary64 where
  | finite (negative : Bool) (significand : Nat) (exponent : Int)
  | infinite (negative : Bool)
  | nan (mark : Nat)
deriving DecidableEq

def roundDiv (num den : Nat) : Nat :=
  let quotient := num / den
  match compare (2 * (num % den)) den with
  | .lt => quotient
  | .gt => quotient + 1
  | .eq => if quotient % 2 = 0 then quotient else quotient + 1

theorem roundDiv_near (num den : Nat) (positive : 0 < den) :
    2 * (roundDiv num den * den) ≤ 2 * num + den ∧ 2 * num ≤ 2 * (roundDiv num den * den) + den := by
  have whole := Nat.div_add_mod num den
  have rest := Nat.mod_lt num positive
  have next : (num / den + 1) * den = den * (num / den) + den := by rw [Nat.add_mul, Nat.mul_comm]; simp
  have here : num / den * den = den * (num / den) := Nat.mul_comm ..
  simp only [roundDiv]
  split
  · rename_i order; rw [Nat.compare_eq_lt] at order; omega
  · rename_i order; rw [Nat.compare_eq_gt] at order; omega
  · rename_i order; rw [Nat.compare_eq_eq] at order; split <;> omega

namespace Binary64

def precision : Nat := 53
def leastExponent : Int := -1074
def greatestExponent : Int := 971

def zero : Binary64 := .finite false 0 leastExponent
def one : Binary64 := .finite false (Nat.pow 2 52) (-52)

def IsFinite : Binary64 → Prop
  | .finite .. => True
  | _ => False

instance (x : Binary64) : Decidable x.IsFinite :=
  match x with
  | .finite .. => .isTrue trivial
  | .infinite _ | .nan _ => .isFalse id

def logRatio (num den : Nat) : Int :=
  let estimate : Int := (num.log2 : Int) - den.log2
  if den * Nat.pow 2 estimate.toNat ≤ num * Nat.pow 2 (-estimate).toNat then estimate else estimate - 1

/-- The number nearest to `± num / den`, a half to the even significand; infinite beyond the range. -/
def ofRatio (negative : Bool) (num den : Nat) : Binary64 :=
  if num = 0 then .finite negative 0 leastExponent
  else
    let exponent := max (logRatio num den - 52) leastExponent
    let rounded := roundDiv (num * Nat.pow 2 (-exponent).toNat) (den * Nat.pow 2 exponent.toNat)
    let (significand, exponent) :=
      if rounded = Nat.pow 2 precision then (Nat.pow 2 (precision - 1), exponent + 1) else (rounded, exponent)
    if greatestExponent < exponent then .infinite negative else .finite negative significand exponent

def ofInt? (n : Int) : Option Binary64 :=
  match ofRatio (decide (n < 0)) n.natAbs 1 with
  | .infinite _ => none
  | x => some x

theorem ofInt?_zero : ofInt? 0 = some zero := by decide

theorem ofInt?_one : ofInt? 1 = some one := by decide +kernel

end Binary64

end ShaderGraph
