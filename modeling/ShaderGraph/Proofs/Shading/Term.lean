import ShaderGraph.Code
import ShaderGraph.Identifier

namespace ShaderGraph.Shading

inductive Term where
  | name (ident : String)
  | numeral (text : String)
  | splat (shape : Shape) (operand : Term)
  | pair (shape : Shape) (first second : Term)
  | quad (shape : Shape) (first second third fourth : Term)
  | swizzle (operand : Term) (letters : String)
  | clamp (operand low high : Term)
  /-- The first two operands are names of the module, not of the body. -/
  | sample (texture sampler : String) (coordinates : Term)
deriving DecidableEq

abbrev Reader := List Char → Option (Term × List Char)

def after? : List Char → List Char → Option (List Char)
  | [], input => some input
  | _ :: _, [] => none
  | c :: text, d :: input => if c = d then after? text input else none

def startsNumeral (c : Char) : Bool := c.isDigit || c == '-'

def isNumeralChar (c : Char) : Bool := startsNumeral c || c == '.' || c == '+' || c == 'e'

def nextArgument? (argument : Reader) (input : List Char) : Option (Term × List Char) := do
  argument (← after? [',', ' '] input)

def clamp? (argument : Reader) (input : List Char) : Option (Term × List Char) := do
  let (operand, rest) ← argument input
  let (low, rest) ← nextArgument? argument rest
  let (high, rest) ← nextArgument? argument rest
  return (.clamp operand low high, ← after? [')'] rest)

def sample? (argument : Reader) (input : List Char) : Option (Term × List Char) := do
  let texture := input.takeWhile (· != ',')
  let rest ← after? [',', ' '] (input.dropWhile (· != ','))
  let sampler := rest.takeWhile (· != ',')
  let (coordinates, rest) ← nextArgument? argument (rest.dropWhile (· != ','))
  return (.sample (.ofList texture) (.ofList sampler) coordinates, ← after? [')'] rest)

def vector? (argument : Reader) (shape : Shape) (input : List Char) : Option (Term × List Char) := do
  let (first, rest) ← argument input
  if let some rest := after? [')'] rest then return (.splat shape first, rest)
  let (second, rest) ← nextArgument? argument rest
  if let some rest := after? [')'] rest then return (.pair shape first second, rest)
  let (third, rest) ← nextArgument? argument rest
  let (fourth, rest) ← nextArgument? argument rest
  return (.quad shape first second third fourth, ← after? [')'] rest)

def vectorShape? (word : String) : Option Shape :=
  if word = "vec2" then some .vec2
  else if word = "vec3" then some .vec3
  else if word = "vec4" then some .vec4
  else none

def call? (argument : Reader) (function : String) (input : List Char) : Option (Term × List Char) :=
  if function = "clamp" then clamp? argument input
  else if function = "textureSample" then sample? argument input
  else none

def word? (argument : Reader) (word : String) : Reader
  | '(' :: rest => call? argument word rest
  | '<' :: rest => do
    let shape ← vectorShape? word
    vector? argument shape (← after? ['f', '3', '2', '>', '('] rest)
  | rest => if word = "" then none else some (.name word, rest)

def primary? (argument : Reader) : Reader
  | [] => none
  | c :: rest =>
    if startsNumeral c then
      some (.numeral (.ofList ((c :: rest).takeWhile isNumeralChar)), (c :: rest).dropWhile isNumeralChar)
    else
      word? argument (.ofList ((c :: rest).takeWhile Identifier.isNameChar))
        ((c :: rest).dropWhile Identifier.isNameChar)

def suffix (operand : Term) : List Char → Term × List Char
  | '.' :: rest => (.swizzle operand (.ofList (rest.takeWhile Char.isAlpha)), rest.dropWhile Char.isAlpha)
  | rest => (operand, rest)

def term? : (depth : Nat) → Reader
  | 0, _ => none
  | depth + 1, input => do
    let (operand, rest) ← primary? (term? depth) input
    return suffix operand rest

def Term.read? (text : String) : Option Term :=
  match term? (text.length + 1) text.toList with
  | some (term, []) => some term
  | _ => none

def readStatement? (text : String) : Option (String × Term) := do
  let rest ← after? ['l', 'e', 't', ' '] text.toList
  let name := rest.takeWhile Identifier.isNameChar
  let rest ← after? [' ', '=', ' '] (rest.dropWhile Identifier.isNameChar)
  match ← term? (text.length + 1) rest with
  | (term, [';']) => some (.ofList name, term)
  | _ => none

def Term.mentions : Term → List String
  | name ident => [ident]
  | numeral _ => []
  | splat _ operand | swizzle operand _ => operand.mentions
  | pair _ first second => first.mentions ++ second.mentions
  | quad _ first second third fourth =>
    first.mentions ++ second.mentions ++ third.mentions ++ fourth.mentions
  | clamp operand low high => operand.mentions ++ low.mentions ++ high.mentions
  | sample _ _ coordinates => coordinates.mentions

def Term.resources : Term → List String
  | name _ | numeral _ => []
  | splat _ operand | swizzle operand _ => operand.resources
  | pair _ first second => first.resources ++ second.resources
  | quad _ first second third fourth =>
    first.resources ++ second.resources ++ third.resources ++ fourth.resources
  | clamp operand low high => operand.resources ++ low.resources ++ high.resources
  | sample texture sampler coordinates => texture :: sampler :: coordinates.resources

def laneIndex? (c : Char) : Option Nat :=
  if c = 'x' ∨ c = 'r' then some 0
  else if c = 'y' ∨ c = 'g' then some 1
  else if c = 'z' ∨ c = 'b' then some 2
  else if c = 'w' ∨ c = 'a' then some 3
  else none

def laneIndices? (letters : String) (count : Nat) : Option (List Nat) :=
  letters.toList.mapM (fun c => (laneIndex? c).filter (· < count))

def shapeOfLanes? (count : Nat) : Option Shape :=
  Shape.all.find? (fun shape => shape.lanes == count)

structure Algebra (β : Type) where
  numeral : String → Option β
  splat : Shape → β → Option β
  pair : Shape → β → β → Option β
  quad : Shape → β → β → β → β → Option β
  swizzle : String → β → Option β
  clamp : β → β → β → Option β
  sample : (texture sampler : String) → β → Option β

def Term.value? {β : Type} (algebra : Algebra β) (scope : String → Option β) : Term → Option β
  | name ident => scope ident
  | numeral text => algebra.numeral text
  | splat shape operand => do algebra.splat shape (← operand.value? algebra scope)
  | pair shape first second => do
    algebra.pair shape (← first.value? algebra scope) (← second.value? algebra scope)
  | quad shape first second third fourth => do
    algebra.quad shape (← first.value? algebra scope) (← second.value? algebra scope)
      (← third.value? algebra scope) (← fourth.value? algebra scope)
  | swizzle operand letters => do algebra.swizzle letters (← operand.value? algebra scope)
  | clamp operand low high => do
    algebra.clamp (← operand.value? algebra scope) (← low.value? algebra scope) (← high.value? algebra scope)
  | sample texture sampler coordinates => do
    algebra.sample texture sampler (← coordinates.value? algebra scope)

/-- Types: lanes are picked from vectors and within their lanes, the operands of a vector add up to its lanes (or one
    scalar fills it), a value is clamped between two of its own shape, and a texture is sampled at two coordinates. -/
def typing : Algebra Shape where
  numeral _ := some .float
  splat shape operand := if operand = .float ∧ shape ≠ .float then some shape else none
  pair shape first second := if first.lanes + second.lanes = shape.lanes then some shape else none
  quad shape first second third fourth :=
    if first.lanes + second.lanes + third.lanes + fourth.lanes = shape.lanes then some shape else none
  swizzle letters operand := do
    if operand = .float then none
    else shapeOfLanes? (← laneIndices? letters operand.lanes).length
  clamp operand low high := if low = operand ∧ high = operand then some operand else none
  sample _ _ coordinates := if coordinates = .vec2 then some .vec4 else none

/-- A reading of everything that a body leaves open: numerals, the variables of the mesh, the texture and `clamp` on a
    lane. Zero and one are read as such in either way they are written. -/
structure Interpretation (α : Type) [Zero α] [One α] where
  numeral : String → α
  uv : Fin 2 → α
  normal : Fin 3 → α
  position : Fin 4 → α
  sample : (texture sampler : String) → α → α → Fin 4 → α
  clamp : α → α → α → α
  numeral_zero : numeral "0.0" = 0
  numeral_zero_fixed : numeral "0.00000" = 0
  numeral_one : numeral "1.0" = 1
  numeral_one_fixed : numeral "1.00000" = 1

def Interpretation.meaning {α : Type} [Zero α] [One α] (reading : Interpretation α) : Algebra (List α) where
  numeral text := some [reading.numeral text]
  splat shape operand := match operand with
    | [x] => some (.replicate shape.lanes x)
    | _ => none
  pair shape first second :=
    let lanes := first ++ second
    if lanes.length = shape.lanes then some lanes else none
  quad shape first second third fourth :=
    let lanes := first ++ second ++ third ++ fourth
    if lanes.length = shape.lanes then some lanes else none
  swizzle letters operand := do
    if operand.length < 2 then none
    else (← laneIndices? letters operand.length).mapM (fun i => operand[i]?)
  clamp operand low high :=
    if low.length = operand.length ∧ high.length = operand.length then
      some ((operand.zip (low.zip high)).map (fun x => reading.clamp x.1 x.2.1 x.2.2))
    else none
  sample texture sampler coordinates := match coordinates with
    | [u, v] => some (.ofFn (reading.sample texture sampler u v))
    | _ => none

end ShaderGraph.Shading
