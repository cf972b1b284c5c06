import ShaderGraph.Number.Binary64
import ShaderGraph.Text.NumeralClass

namespace ShaderGraph.Numeral

def fold (c : Char) : Char :=
  if Text.isBlank c then ' '
  else match Text.digitValue? c with
    | some d => Char.ofNat (48 + d)
    | none => c

def trim (text : List Char) : List Char :=
  ((text.dropWhile (· = ' ')).reverse.dropWhile (· = ' ')).reverse

/-- Remove low lines, each of which has to stand between two digits; `before` is the character in front. -/
def dropLines? (before : Option Char) : List Char → Option (List Char)
  | [] => some []
  | '_' :: c :: rest =>
    if (before.map Char.isDigit).getD false && c.isDigit then (dropLines? (some c) rest).map (c :: ·) else none
  | ['_'] => none
  | c :: rest => (dropLines? (some c) rest).map (c :: ·)

def natOf (digits : List Char) : Nat :=
  digits.foldl (fun n c => 10 * n + (c.toNat - 48)) 0

def sign : List Char → Bool × List Char
  | '-' :: rest => (true, rest)
  | '+' :: rest => (false, rest)
  | text => (false, text)

def exponent? : List Char → Option Int
  | [] => some 0
  | mark :: rest =>
    let (negative, digits) := sign rest
    if (mark = 'e' ∨ mark = 'E') ∧ digits ≠ [] ∧ digits.all Char.isDigit = true then
      some (if negative then -(natOf digits : Int) else natOf digits)
    else none

/-- `± digits · 10 ^ exponent`, rounded. Outside the range of exponents the power of ten is not computed. -/
def scaled (negative : Bool) (digits : List Char) (exponent : Int) : Binary64 :=
  let digits := digits.dropWhile (· = '0')
  let top := exponent + digits.length
  if digits = [] ∨ top < -400 then .finite negative 0 Binary64.leastExponent
  else if 400 < top then .infinite negative
  else .ofRatio negative (natOf digits * Nat.pow 10 exponent.toNat) (Nat.pow 10 (-exponent).toNat)

def decimal? (negative : Bool) (text : List Char) : Option Binary64 :=
  let whole := text.takeWhile Char.isDigit
  let (places, rest) := match text.dropWhile Char.isDigit with
    | '.' :: rest => (rest.takeWhile Char.isDigit, rest.dropWhile Char.isDigit)
    | rest => ([], rest)
  if whole = [] ∧ places = [] then none
  else (exponent? rest).map (fun e => scaled negative (whole ++ places) (e - places.length))

def read? (text : String) : Option Binary64 := do
  let plain ← dropLines? none (trim (text.toList.map fold))
  let (negative, body) := sign plain
  let word := String.ofList (body.map Char.toLower)
  if word = "nan" then pure (.nan 0)
  else if word = "inf" ∨ word = "infinity" then pure (.infinite negative)
  else decimal? negative body

end ShaderGraph.Numeral
