import ShaderGraph.Expression
import ShaderGraph.Failure
import ShaderGraph.Options

namespace ShaderGraph

inductive Error where
  /-- A failure of the graph or of the compile; only these are reported in a compile's result. -/
  | failure (cause : Failure)
  | conversion (cause : ConversionError)
  | params (cause : ParamError)
  | options (cause : OptionError)
  | merge (cause : MergeError)
  | noShape (count : Value)
  | nameNotText (value : Value)
  | unknownLabel (label : String)
  | unknownLevel (name : String)
  | badLevel (level : Value)
  | unknownHandle (handle : String)
  | overlong (limit : Nat)
  /-- An output is marked as in progress, and is not among those being resolved. -/
  | notUnderway (point : Waypoint)
  | nesting
  | host (message : String)
  /-- The receiver of an emission ends the program. No handler of errors takes note of it. -/
  | exit (signal : String)

namespace Error

def isExit : Error → Bool
  | .exit _ => true
  | _ => false

def exited {α : Type} : Except Error α → Bool
  | .error cause => cause.isExit
  | .ok _ => false

/-- What is said of an error, where integers in texts may have so many digits, if there is a bound. -/
def message (digits : Option Nat) : Error → String
  | .failure cause => cause.message
  | .conversion cause => cause.message
  | .params cause => cause.message digits
  | .options cause => cause.message digits
  | .merge cause => cause.message
  | .noShape count => count.complaint digits ("No shader shape with " ++ count.display ++ " components")
  | .nameNotText value => "expected string or bytes-like object, got '" ++ value.typeName ++ "'"
  | .unknownLabel label => Text.quoted label
  | .unknownLevel name => "Unknown level: " ++ Text.quoted name
  | .badLevel level => "Level not an integer or a valid string: " ++ level.quoted
  | .unknownHandle handle => handle
  | .overlong limit => Value.overlongText limit
  | .notUnderway (name, socket) =>
    "(" ++ Text.quoted name ++ ", " ++ (socket.map Text.quoted).getD "None" ++ ") is not in list"
  | .nesting => "maximum recursion depth exceeded"
  | .host message => message
  | .exit _ => ""

def label : Error → String
  | .failure cause => cause.family.label
  | .conversion cause => cause.errorClass.label
  | .params cause => cause.errorClass.label
  | .options cause => cause.errorClass.label
  | .merge _ => ErrorClass.type.label
  | .noShape _ => ErrorClass.value.label
  | .nameNotText _ => ErrorClass.type.label
  | .unknownLabel _ => ErrorClass.key.label
  | .unknownLevel _ => ErrorClass.value.label
  | .badLevel _ => ErrorClass.type.label
  | .unknownHandle _ => ErrorClass.handle.label
  | .overlong _ | .notUnderway _ => ErrorClass.value.label
  | .nesting => ErrorClass.recursion.label
  | .host _ => ErrorClass.runtime.label
  | .exit signal => signal

end Error

namespace Value

def check (digits : Option Nat) (value : Value) : Except Error Unit :=
  match digits with
  | some limit => ensure (value.fits limit) (.overlong limit)
  | none => .ok ()

def checkAll (digits : Option Nat) : List Value → Except Error Unit
  | [] => .ok ()
  | value :: rest => do
    value.check digits
    checkAll digits rest

theorem check_eq_ok_iff {digits : Option Nat} {value : Value} {u : Unit} :
    value.check digits = .ok u ↔ value.writable digits = true := by
  cases digits <;> simp [check, writable, ensure_eq_ok_iff]

theorem checkAll_eq_ok_iff {digits : Option Nat} {values : List Value} {u : Unit} :
    checkAll digits values = .ok u ↔ ∀ value ∈ values, value.writable digits = true := by
  induction values with
  | nil => simp [checkAll]
  | cons value rest ih =>
    simp only [checkAll, bind_eq_ok_iff, check_eq_ok_iff, ih, List.forall_mem_cons, exists_const]

end Value

/-- A step that changes a state and may fail; the state is kept on failure. -/
abbrev Step (σ α : Type) := ExceptT Error (StateM σ) α

namespace Step

variable {σ α β : Type}

def outcome (step : Step σ α) (state : σ) : Except Error α × σ :=
  step.run.run state

def ofExcept {ε : Type} (wrap : ε → Error) : Except ε α → Step σ α
  | .ok value => pure value
  | .error e => throw (wrap e)

def attempt (step : Step σ α) : Step σ (Except Error α) :=
  ExceptT.mk (fun state => match step.outcome state with
    | (outcome, state) => (.ok outcome, state))

@[simp] theorem outcome_pure (a : α) (state : σ) : outcome (pure a : Step σ α) state = (.ok a, state) := rfl

@[simp] theorem outcome_throw (e : Error) (state : σ) : outcome (throw e : Step σ α) state = (.error e, state) := rfl

theorem outcome_bind (step : Step σ α) (next : α → Step σ β) (state : σ) :
    outcome (step >>= next) state = match step.outcome state with
      | (.ok a, after) => (next a).outcome after
      | (.error e, after) => (.error e, after) := by
  simp only [outcome, ExceptT.run_bind, StateT.run_bind]
  change (match step.run.run state with | (outcome, after) => _) = _
  rcases step.run.run state with ⟨result | result, after⟩ <;> rfl

theorem outcome_bind_ok {step : Step σ α} {next : α → Step σ β} {state after : σ} {a : α}
    (h : step.outcome state = (.ok a, after)) : outcome (step >>= next) state = (next a).outcome after := by
  rw [outcome_bind, h]

theorem outcome_bind_error {step : Step σ α} {next : α → Step σ β} {state after : σ} {e : Error}
    (h : step.outcome state = (.error e, after)) : outcome (step >>= next) state = (.error e, after) := by
  rw [outcome_bind, h]

@[simp] theorem outcome_get (state : σ) : outcome (get : Step σ σ) state = (.ok state, state) := rfl

@[simp] theorem outcome_set (new state : σ) : outcome (set new : Step σ PUnit) state = (.ok ⟨⟩, new) := rfl

@[simp] theorem outcome_modify (change : σ → σ) (state : σ) :
    outcome (modify change : Step σ PUnit) state = (.ok ⟨⟩, change state) := rfl

@[simp] theorem outcome_modifyGet (change : σ → α × σ) (state : σ) :
    outcome (modifyGet change : Step σ α) state = (.ok (change state).1, (change state).2) := rfl

@[simp] theorem outcome_ofExcept_ok {ε : Type} (wrap : ε → Error) (a : α) (state : σ) :
    outcome (ofExcept wrap (.ok a) : Step σ α) state = (.ok a, state) := rfl

@[simp] theorem outcome_ofExcept_error {ε : Type} (wrap : ε → Error) (e : ε) (state : σ) :
    outcome (ofExcept wrap (.error e) : Step σ α) state = (.error (wrap e), state) := rfl

@[simp] theorem outcome_attempt (step : Step σ α) (state : σ) :
    step.attempt.outcome state = (.ok (step.outcome state).1, (step.outcome state).2) := rfl

end Step

end ShaderGraph
