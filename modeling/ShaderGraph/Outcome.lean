
namespace ShaderGraph

/-- What callers tell errors apart by, where they are no failures of a graph or of a compile. -/
inductive ErrorClass where
  | value
  | type
  | overflow
  | noMember
  | key
  | handle
  | recursion
  | runtime
deriving DecidableEq, Repr

def ErrorClass.label : ErrorClass → String
  | value => "ValueError"
  | type => "TypeError"
  | overflow => "OverflowError"
  | noMember => "AttributeError"
  | key => "KeyError"
  | handle => "UnknownHandle"
  | recursion => "RecursionError"
  | runtime => "RuntimeError"

variable {ε α β : Type}

def ensure (condition : Bool) (e : ε) : Except ε Unit :=
  if condition then .ok () else .error e

theorem ensure_eq_ok_iff {condition : Bool} {e : ε} {u : Unit} :
    ensure condition e = .ok u ↔ condition = true := by
  cases condition <;> simp [ensure]

theorem bind_eq_ok_iff {x : Except ε α} {f : α → Except ε β} {b : β} :
    (x >>= f) = .ok b ↔ ∃ a, x = .ok a ∧ f a = .ok b := by
  cases x with
  | error e => simp [bind, Except.bind]
  | ok a => simp [bind, Except.bind]

theorem mapError_eq_ok_iff {ε' : Type} {x : Except ε α} {wrap : ε → ε'} {a : α} :
    x.mapError wrap = .ok a ↔ x = .ok a := by
  cases x with
  | error e => constructor <;> intro same <;> cases same
  | ok b => constructor <;> intro same <;> cases same <;> rfl

theorem ensure_eq_error_iff {condition : Bool} {e other : ε} :
    ensure condition e = .error other ↔ condition = false ∧ e = other := by
  cases condition <;> simp [ensure]

theorem bind_eq_error_iff {x : Except ε α} {f : α → Except ε β} {e : ε} :
    (x >>= f) = .error e ↔ x = .error e ∨ ∃ a, x = .ok a ∧ f a = .error e := by
  cases x with
  | error e => simp [bind, Except.bind]
  | ok a => simp [bind, Except.bind]

end ShaderGraph
