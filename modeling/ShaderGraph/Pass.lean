import ShaderGraph.Graph.Basic
import ShaderGraph.NameTable
import ShaderGraph.Error

namespace ShaderGraph

structure Emission where
  node : String
  source : String
deriving DecidableEq

structure OutputKey where
  node : NodeId
  socket : Option String
deriving DecidableEq

inductive VisitState where
  | unvisited
  | inProgress
  | resolved
deriving DecidableEq, Repr

def VisitState.label : VisitState → String
  | unvisited => "UNVISITED"
  | inProgress => "IN_PROGRESS"
  | resolved => "RESOLVED"

/-- Results are kept in `memo`, the latest first; `states` holds the marks of the outputs that were visited. -/
structure Pass where
  options : Options
  memo : List (OutputKey × Expression)
  states : List (OutputKey × VisitState)
  names : NameTable
  emissions : List Emission

namespace Pass

def fresh (options : Options) : Pass := ⟨options, [], [], .empty, []⟩

def result? (pass : Pass) (key : OutputKey) : Option Expression :=
  pass.memo.lookup key

def state (pass : Pass) (key : OutputKey) : VisitState :=
  (pass.states.lookup key).getD .unvisited

def visited (pass : Pass) : List (OutputKey × VisitState) :=
  pass.states

def unmark (pass : Pass) (key : OutputKey) : Pass :=
  { pass with states := pass.states.filter (fun entry => entry.1 != key) }

def mark (pass : Pass) (key : OutputKey) (state : VisitState) : Pass :=
  { pass with states := (key, state) :: (pass.unmark key).states }

def keep (pass : Pass) (key : OutputKey) (e : Expression) : Pass :=
  { pass with memo := (key, e) :: pass.memo }

def begin (pass : Pass) (key : OutputKey) : Pass :=
  pass.mark key .inProgress

/-- Stop to resolve an output: keep its result, or take its mark off. An exit leaves the mark where it is. -/
def finish (pass : Pass) (key : OutputKey) : Except Error Expression → Pass
  | .ok e => (pass.keep key e).mark key .resolved
  | .error cause => if cause.isExit then pass else pass.unmark key

theorem lookup_unmark (pass : Pass) (key other : OutputKey) :
    (pass.unmark key).states.lookup other = if other = key then none else pass.states.lookup other :=
  lookup_filter_ne pass.states key other

@[simp] theorem state_unmark (pass : Pass) (key other : OutputKey) :
    (pass.unmark key).state other = if other = key then .unvisited else pass.state other := by
  unfold state
  rw [lookup_unmark]
  split <;> rfl

@[simp] theorem state_mark (pass : Pass) (key other : OutputKey) (state : VisitState) :
    (pass.mark key state).state other = if other = key then state else pass.state other := by
  by_cases asked : other = key
  · simp [mark, Pass.state, asked]
  · have rest := pass.lookup_unmark key other
    simp only [asked, if_false] at rest
    simp [mark, Pass.state, asked, List.lookup_cons, beq_eq_false_iff_ne.mpr asked, rest]

@[simp] theorem state_begin (pass : Pass) (key other : OutputKey) :
    (pass.begin key).state other = if other = key then .inProgress else pass.state other :=
  pass.state_mark key other .inProgress

@[simp] theorem state_finish_ok (pass : Pass) (key other : OutputKey) (e : Expression) :
    (pass.finish key (.ok e)).state other = if other = key then .resolved else pass.state other :=
  (pass.keep key e).state_mark key other .resolved

theorem finish_failed (pass : Pass) (key : OutputKey) {cause : Error} (failed : cause.isExit = false) :
    pass.finish key (.error cause) = pass.unmark key := by
  simp [finish, failed]

theorem finish_exit (pass : Pass) (key : OutputKey) {cause : Error} (exit : cause.isExit = true) :
    pass.finish key (.error cause) = pass := by
  simp [finish, exit]

@[simp] theorem state_finish_error (pass : Pass) (key other : OutputKey) (cause : Error) :
    (pass.finish key (.error cause)).state other =
      if other = key ∧ cause.isExit = false then .unvisited else pass.state other := by
  cases exit : cause.isExit with
  | true => simp [finish_exit pass key exit]
  | false => simp [finish_failed pass key exit]

@[simp] theorem memo_begin (pass : Pass) (key : OutputKey) : (pass.begin key).memo = pass.memo := rfl

@[simp] theorem memo_finish_ok (pass : Pass) (key : OutputKey) (e : Expression) :
    (pass.finish key (.ok e)).memo = (key, e) :: pass.memo := rfl

theorem finish_error (pass : Pass) (key : OutputKey) (cause : Error) :
    pass.finish key (.error cause) = pass ∨ pass.finish key (.error cause) = pass.unmark key := by
  cases exit : cause.isExit with
  | true => exact .inl (pass.finish_exit key exit)
  | false => exact .inr (pass.finish_failed key exit)

@[simp] theorem memo_finish_error (pass : Pass) (key : OutputKey) (cause : Error) :
    (pass.finish key (.error cause)).memo = pass.memo := by
  rcases pass.finish_error key cause with same | same
  · rw [same]
  · rw [same, unmark]

theorem finish_kept (pass : Pass) (key : OutputKey) (outcome : Except Error Expression) :
    (pass.finish key outcome).options = pass.options ∧ (pass.finish key outcome).names = pass.names ∧
      (pass.finish key outcome).emissions = pass.emissions := by
  cases outcome with
  | ok e => exact ⟨rfl, rfl, rfl⟩
  | error cause => rcases pass.finish_error key cause with same | same <;> simp [same, unmark]

@[simp] theorem options_finish (pass : Pass) (key : OutputKey) (outcome : Except Error Expression) :
    (pass.finish key outcome).options = pass.options := (pass.finish_kept key outcome).1

@[simp] theorem names_finish (pass : Pass) (key : OutputKey) (outcome : Except Error Expression) :
    (pass.finish key outcome).names = pass.names := (pass.finish_kept key outcome).2.1

@[simp] theorem emissions_finish (pass : Pass) (key : OutputKey) (outcome : Except Error Expression) :
    (pass.finish key outcome).emissions = pass.emissions := (pass.finish_kept key outcome).2.2

theorem result?_finish (pass : Pass) (key other : OutputKey) (e : Expression) :
    (pass.finish key (.ok e)).result? other = if other = key then some e else pass.result? other := by
  by_cases asked : other = key
  · simp [result?, asked]
  · simp [result?, List.lookup_cons, beq_eq_false_iff_ne.mpr asked, asked]

end Pass

end ShaderGraph
