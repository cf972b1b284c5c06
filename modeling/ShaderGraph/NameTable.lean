import ShaderGraph.Identifier
import ShaderGraph.Search

namespace ShaderGraph

structure NameTable where
  counters : List (String × Nat)
  bound : List (String × String)

namespace NameTable

def empty : NameTable := ⟨[], []⟩

def expression? (table : NameTable) (name : String) : Option String :=
  table.bound.lookup name

def counter (table : NameTable) (stem : String) : Nat :=
  (table.counters.lookup stem).getD 0

def numbered (stem : String) (n : Nat) : String :=
  stem ++ "_" ++ toString n

def candidate (stem : String) : Nat → String
  | 0 => stem
  | k + 1 => numbered stem (k + 1)

def isFree (table : NameTable) (name : String) : Bool :=
  (table.expression? name).isNone

def accepts (table : NameTable) (expression name : String) : Bool :=
  match table.expression? name with
  | none => true
  | some known => known == expression

def bind (table : NameTable) (name expression : String) : NameTable :=
  if table.isFree name then { table with bound := (name, expression) :: table.bound } else table

def setCounter (table : NameTable) (stem : String) (n : Nat) : NameTable :=
  { table with counters := (stem, n) :: table.counters.filter (·.1 != stem) }

/-- A fresh name `stem_n`. The search ends: more numbers are tried than names are bound. -/
def next (table : NameTable) (stem : String) : String × NameTable :=
  let stem := Identifier.sanitize stem
  let n := searchFrom (fun n => table.isFree (numbered stem n)) (table.counter stem) (table.bound.length + 1)
  (numbered stem n, table.setCounter stem (n + 1))

/-- Reserve a name for an expression: the first candidate that is free or already stands for it. -/
def declare (table : NameTable) (name expression : String) : String × NameTable :=
  let stem := Identifier.sanitize name
  let k := searchFrom (fun k => table.accepts expression (candidate stem k)) 0 (table.bound.length + 1)
  (candidate stem k, table.bind (candidate stem k) expression)

theorem counter_setCounter (table : NameTable) (stem other : String) (n : Nat) :
    (table.setCounter stem n).counter other = if other = stem then n else table.counter other := by
  unfold counter setCounter
  by_cases asked : other = stem
  · simp [asked]
  · simp [asked, List.lookup_cons, beq_eq_false_iff_ne.mpr asked, lookup_filter_ne]

theorem expression?_bind (table : NameTable) (name expression other : String) :
    (table.bind name expression).expression? other =
      if other = name ∧ table.isFree name = true then some expression else table.expression? other := by
  by_cases free : table.isFree name
  · by_cases asked : other = name
    · simp [bind, free, asked, expression?]
    · simp [bind, free, asked, expression?, List.lookup_cons, beq_eq_false_iff_ne.mpr asked]
  · simp [bind, free]

end NameTable

end ShaderGraph
