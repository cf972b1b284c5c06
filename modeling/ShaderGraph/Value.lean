import ShaderGraph.Number.Decimal
import ShaderGraph.Number.Numeral
import ShaderGraph.Outcome
import ShaderGraph.Text.Quoted

namespace ShaderGraph

inductive Value where
  | null
  | bool (b : Bool)
  | int (n : Int)
  | number (x : Binary64)
  | text (s : String)
  | list (items : List Value)
deriving Inhabited

inductive ConversionError where
  | unreadable (text : String)
  | unsuitable (type : String)
  | tooLarge

def ConversionError.message : ConversionError → String
  | .unreadable text => "could not convert string to float: " ++ Text.quoted text
  | .unsuitable type => "float() argument must be a string or a real number, not '" ++ type ++ "'"
  | .tooLarge => "int too large to convert to float"

def ConversionError.errorClass : ConversionError → ErrorClass
  | .unreadable _ => .value
  | .unsuitable _ => .type
  | .tooLarge => .overflow

namespace Value

def typeName : Value → String
  | null => "NoneType"
  | bool _ => "bool"
  | int _ => "int"
  | number _ => "float"
  | text _ => "str"
  | list _ => "list"

def isList : Value → Bool
  | list _ => true
  | _ => false

mutual

def quoted : Value → String
  | null => "None"
  | bool b => if b then "True" else "False"
  | int n => toString n
  | number x => x.plain
  | text s => Text.quoted s
  | list items => "[" ++ ", ".intercalate (quotedAll items) ++ "]"

def quotedAll : List Value → List String
  | [] => []
  | item :: items => item.quoted :: quotedAll items

end

def display : Value → String
  | text s => s
  | value => value.quoted

mutual

def fits (limit : Nat) : Value → Bool
  | int n => decide ((toString n.natAbs).length ≤ limit)
  | list items => fitsAll limit items
  | null | bool _ | number _ | text _ => true

def fitsAll (limit : Nat) : List Value → Bool
  | [] => true
  | item :: items => item.fits limit && fitsAll limit items

end

def writable (digits : Option Nat) (value : Value) : Bool :=
  digits.all (value.fits ·)

def overlongText (limit : Nat) : String :=
  "Exceeds the limit (" ++ toString limit ++
    " digits) for integer string conversion; use sys.set_int_max_str_digits() to increase the limit"

/-- The text of a complaint in which a value is written. If it cannot be written, that is what is complained about. -/
def complaint (digits : Option Nat) (value : Value) (text : String) : String :=
  match digits with
  | some limit => if value.fits limit then text else overlongText limit
  | none => text

structure Dyadic where
  mantissa : Int
  exponent : Int

def Dyadic.equal (a b : Dyadic) : Bool :=
  a.mantissa * Nat.pow 2 (a.exponent - b.exponent).toNat == b.mantissa * Nat.pow 2 (b.exponent - a.exponent).toNat

def dyadic? : Value → Option Dyadic
  | bool b => some ⟨if b then 1 else 0, 0⟩
  | int n => some ⟨n, 0⟩
  | number (.finite negative m q) => some ⟨if negative then -m else m, q⟩
  | _ => none

/-- Equality of values that are no lists: numbers are equal if they stand for the same number, whatever their type. -/
def sameAtom (a b : Value) : Bool :=
  match a.dyadic?, b.dyadic? with
  | some m, some n => m.equal n
  | none, none =>
    match a, b with
    | null, null => true
    | number x, number y => x == y
    | text s, text t => s == t
    | _, _ => false
  | _, _ => false

mutual

def same : Value → Value → Bool
  | list items, list others => sameAll items others
  | list _, _ => false
  | a, b => sameAtom a b

def sameAll : List Value → List Value → Bool
  | [], [] => true
  | item :: items, other :: others => same item other && sameAll items others
  | _, _ => false

end

theorem same_text (s t : String) : (text s).same (text t) = (s == t) := by
  simp [same, sameAtom, dyadic?]

/-- The number a value stands for, also a truth value and a text that reads as a numeral. -/
def toNumber : Value → Except ConversionError Binary64
  | bool b => .ok (if b then .one else .zero)
  | int n => match Binary64.ofInt? n with
    | some x => .ok x
    | none => .error .tooLarge
  | number x => .ok x
  | text s => match Numeral.read? s with
    | some x => .ok x
    | none => .error (.unreadable s)
  | value => .error (.unsuitable value.typeName)

def toPad : Value → Except ConversionError Binary64
  | null => .ok .zero
  | value => value.toNumber

inductive FiniteError where
  | notFinite
  | tooLarge

def toFinite : Value → Except FiniteError Binary64
  | int n => match Binary64.ofInt? n with
    | some x => .ok x
    | none => .error .tooLarge
  | number x => if x.IsFinite then .ok x else .error .notFinite
  | _ => .error .notFinite

end Value

end ShaderGraph
