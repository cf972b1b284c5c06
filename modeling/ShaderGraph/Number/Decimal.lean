import ShaderGraph.Number.Binary64

namespace ShaderGraph

structure Decimal where
  digits : Nat
  exponent : Int
deriving DecidableEq

def compareScaled (a : Nat) (i : Int) (n : Nat) (j : Int) : Ordering :=
  compare (a * Nat.pow 10 i.toNat * Nat.pow 2 (-j).toNat) (n * Nat.pow 2 j.toNat * Nat.pow 10 (-i).toNat)

/-- Whether a decimal lies among the reals that round to `m · 2 ^ q`. The gap to the number below is half as wide
    when the significand is the least of its exponent, and a real halfway to a neighbour rounds to the even
    significand. -/
def Decimal.readsBack (d : Decimal) (m : Nat) (q : Int) : Bool :=
  let narrow := decide (m = Nat.pow 2 52 ∧ Binary64.leastExponent < q)
  let below := compareScaled d.digits d.exponent (if narrow then 4 * m - 1 else 4 * m - 2) (q - 2)
  let above := compareScaled d.digits d.exponent (4 * m + 2) (q - 2)
  let even := decide (m % 2 = 0)
  (below == .gt || (even && below == .eq)) && (above == .lt || (even && above == .eq))

namespace Decimal

/-- The least `k` with `m · 2 ^ q < 10 ^ k`, for a positive significand: the binary logarithm gives it up to two
    steps. -/
def scale (m : Nat) (q : Int) : Int :=
  let estimate := ((m.log2 : Int) + q) * 30103 / 100000
  if compareScaled 1 estimate m q == .gt then estimate
  else if compareScaled 1 (estimate + 1) m q == .gt then estimate + 1
  else estimate + 2

def floorAt (m : Nat) (q grid : Int) : Nat :=
  (m * Nat.pow 2 q.toNat * Nat.pow 10 (-grid).toNat) / (Nat.pow 2 (-q).toNat * Nat.pow 10 grid.toNat)

def neighbour? (m : Nat) (q grid : Int) : Option Decimal :=
  let low : Decimal := ⟨floorAt m q grid, grid⟩
  let high : Decimal := ⟨low.digits + 1, grid⟩
  match low.readsBack m q, high.readsBack m q with
  | true, false => some low
  | false, true => some high
  | false, false => none
  | true, true =>
    match compareScaled (low.digits + high.digits) grid (2 * m) q with
    | .lt => some high
    | .gt => some low
    | .eq => some (if low.digits % 2 = 0 then low else high)

def exact (m : Nat) (q : Int) : Decimal :=
  ⟨m * Nat.pow 2 q.toNat * Nat.pow 5 (-q).toNat, min q 0⟩

def strip : Nat → Decimal → Decimal
  | 0, d => d
  | fuel + 1, d => if d.digits % 10 = 0 then strip fuel ⟨d.digits / 10, d.exponent + 1⟩ else d

/-- The decimal with the fewest digits that reads back as `m · 2 ^ q`. Seventeen digits always do. -/
def shortest (m : Nat) (q : Int) : Decimal :=
  let top := scale m q
  strip 17 (((List.range 17).findSome? (fun (n : Nat) => neighbour? m q (top - n - 1))).getD (exact m q))

def digitText (n : Nat) : List Char :=
  Nat.toDigits 10 n

def padLeft (width : Nat) (digits : List Char) : List Char :=
  List.replicate (width - digits.length) '0' ++ digits

/-- Positional for numbers from `10 ^ -4` up to `10 ^ 16`, with at least one place; else one digit, the others as
    places, and an exponent with a sign and at least two digits. -/
def layout (d : Decimal) : List Char :=
  let digits := digitText d.digits
  let lead : Int := d.exponent + digits.length - 1
  if lead < -4 ∨ 16 ≤ lead then
    let places := if digits.length = 1 then [] else '.' :: digits.drop 1
    digits.take 1 ++ places ++ 'e' :: (if lead < 0 then '-' else '+') :: padLeft 2 (digitText lead.natAbs)
  else if lead < 0 then
    '0' :: '.' :: List.replicate (lead.natAbs - 1) '0' ++ digits
  else if 0 ≤ d.exponent then
    digits ++ List.replicate d.exponent.toNat '0' ++ ['.', '0']
  else
    digits.take (lead.toNat + 1) ++ '.' :: digits.drop (lead.toNat + 1)

def fixedPlaces (places : Nat) (m : Nat) (q : Int) : List Char :=
  let scaled := roundDiv (m * Nat.pow 2 q.toNat * Nat.pow 10 places) (Nat.pow 2 (-q).toNat)
  let digits := padLeft (places + 1) (digitText scaled)
  let whole := digits.length - places
  digits.take whole ++ '.' :: digits.drop whole

end Decimal

namespace Binary64

def render (numeral : Nat → Int → List Char) : Binary64 → String
  | .finite negative m q => String.ofList ((if negative then ['-'] else []) ++ numeral m q)
  | .infinite negative => if negative then "-inf" else "inf"
  | .nan _ => "nan"

def plain : Binary64 → String :=
  render fun m q => if m = 0 then ['0', '.', '0'] else (Decimal.shortest m q).layout

def fixed : Binary64 → String :=
  render (Decimal.fixedPlaces 5)

example : plain zero = "0.0" := by decide +kernel
example : plain one = "1.0" := by decide +kernel
example : fixed one = "1.00000" := by decide +kernel
example : plain (ofRatio false 1 10) = "0.1" := by decide +kernel
example : plain (ofRatio false (10 ^ 23) 1) = "1e+23" := by decide +kernel
example : plain (ofRatio true 15 10000000) = "-1.5e-06" := by decide +kernel
example : plain (ofRatio false 1 (2 ^ 25)) = "2.9802322387695312e-08" := by decide +kernel
example : plain (.finite false 1 (-1074)) = "5e-324" := by decide +kernel
example : plain (ofRatio false (10 ^ 16) 1) = "1e+16" := by decide +kernel
example : plain (ofRatio false 123456789012345 100) = "1234567890123.45" := by decide +kernel
example : fixed (ofRatio true 1 1000000) = "-0.00000" := by decide +kernel
example : fixed (ofRatio false 5 1000000) = "0.00001" := by decide +kernel

end Binary64

end ShaderGraph
