import ShaderGraph.Proofs.Machine

namespace ShaderGraph

variable {σ α β : Type}

structure Step.Raises (step : Step σ α) (errors : Error → Prop) : Prop where
  outcome : ∀ state cause, (step.outcome state).1 = .error cause → errors cause

namespace Step.Raises

variable {errors : Error → Prop}

theorem done (a : α) : (pure a : Step σ α).Raises errors := ⟨by simp⟩

theorem stop {cause : Error} (allowed : errors cause) : (throw cause : Step σ α).Raises errors := by
  constructor
  intro state other same
  cases same
  exact allowed

theorem andThen {step : Step σ α} {next : α → Step σ β} (first : step.Raises errors)
    (rest : ∀ a, (next a).Raises errors) : (step >>= next).Raises errors := by
  constructor
  intro state cause
  rw [outcome_bind]
  rcases here : step.outcome state with ⟨other | a, after⟩
  · intro same
    cases same
    exact first.outcome state cause (congrArg Prod.fst here)
  · exact (rest a).outcome after cause

theorem ofExcept {ε : Type} {wrap : ε → Error} {outcome : Except ε α}
    (allowed : ∀ cause, outcome = .error cause → errors (wrap cause)) :
    (Step.ofExcept wrap outcome : Step σ α).Raises errors := by
  cases outcome with
  | ok a => exact done a
  | error cause => exact stop (allowed cause rfl)

theorem imp {step : Step σ α} {more : Error → Prop} (raises : step.Raises errors)
    (weaker : ∀ cause, errors cause → more cause) : step.Raises more :=
  ⟨fun state cause failed => weaker cause (raises.outcome state cause failed)⟩

end Step.Raises

inductive Error.OfRule : Error → Prop
  | outputNeeded (node : String) : OfRule (.failure (.outputNeeded node))
  | inputMissing (node input : String) (output : Option String) : OfRule (.failure (.inputMissing node input output))
  | conversion (cause : ConversionError) : OfRule (.conversion cause)
  | merge (cause : MergeError) : OfRule (.merge cause)

inductive Error.OfText : Error → Prop
  | statement (statement : Value) (statements : List Value) : OfText (.failure (.statementNotText statement statements))
  | result (cause : ConversionError) (statements : List Value) : OfText (.failure (.badReturn cause statements))
  | conversion (cause : ConversionError) : OfText (.conversion cause)
  | overlong (limit : Nat) : OfText (.overlong limit)

theorem Error.OfRule.isExit {cause : Error} (rule : cause.OfRule) : cause.isExit = false := by
  cases rule <;> rfl

theorem Error.OfText.isExit {cause : Error} (text : cause.OfText) : cause.isExit = false := by
  cases text <;> rfl

theorem Value.check_raises {digits : Option Nat} {value : Value} {cause : Error}
    (failed : value.check digits = .error cause) : ∃ limit, digits = some limit ∧ cause = .overlong limit := by
  cases digits with
  | none => cases failed
  | some limit => exact ⟨limit, rfl, (ensure_eq_error_iff.mp failed).2.symm⟩

theorem Value.checkAll_raises {digits : Option Nat} {values : List Value} {cause : Error}
    (failed : checkAll digits values = .error cause) : ∃ limit, digits = some limit ∧ cause = .overlong limit := by
  induction values with
  | nil => cases failed
  | cons value rest ih =>
    rw [checkAll, bind_eq_error_iff] at failed
    rcases failed with first | ⟨_, _, later⟩
    · exact check_raises first
    · exact ih later

theorem Expression.assign_raises {errors : Error → Prop} (e : Expression) (name : String) (code : Code) (shape : Shape) :
    (e.assign name code shape).Raises errors := by
  constructor
  intro table cause
  rw [e.outcome_assign]
  simp

namespace NodeScope

open Step.Raises

variable (scope : NodeScope)

theorem input_raises (socket : String) : (scope.input socket).Raises Error.OfRule := by
  unfold input
  split
  · exact done _
  · exact stop (.inputMissing ..)

theorem requireOutput_raises : scope.requireOutput.Raises Error.OfRule := by
  unfold requireOutput
  split
  · exact done _
  · exact stop (.outputNeeded _)

theorem builtin_raises (whole var : String) (shape : Shape) : (scope.builtin whole var shape).Raises Error.OfRule := by
  apply andThen scope.requireOutput_raises
  intro output
  split
  · exact done _
  · exact Expression.assign_raises ..

theorem takeLane_raises (e : Expression) (lane : String) : (scope.takeLane e lane).Raises Error.OfRule := by
  apply andThen (scope.input_raises lane)
  intro scalar
  apply andThen (ofExcept fun cause _ => .merge cause)
  intro _
  exact done _

theorem express_raises : scope.express.Raises Error.OfRule := by
  unfold express
  split
  · exact scope.builtin_raises ..
  · exact scope.builtin_raises ..
  · exact scope.builtin_raises ..
  · apply andThen scope.requireOutput_raises
    intro output
    apply andThen (Expression.assign_raises ..)
    intro sample
    split
    · exact done _
    · exact Expression.assign_raises ..
  · apply andThen (scope.input_raises _)
    intro e
    apply andThen (ofExcept fun cause _ => .conversion cause)
    intro pad
    exact Expression.assign_raises ..
  · exact andThen (scope.input_raises _) fun e => Expression.assign_raises ..
  · apply andThen scope.requireOutput_raises
    intro lane
    exact andThen (scope.input_raises _) fun e => Expression.assign_raises ..
  · apply andThen (scope.takeLane_raises ..)
    intro x
    apply andThen (scope.takeLane_raises ..)
    intro y
    apply andThen (scope.takeLane_raises ..)
    intro z
    apply andThen (scope.takeLane_raises ..)
    intro w
    apply andThen
    · exact ⟨by simp [Naming.next]⟩
    · intro name
      exact Expression.assign_raises ..
  · exact scope.input_raises _
  · exact scope.input_raises _

end NodeScope

namespace Source

theorem body_raises {digits : Option Nat} {indent : String} {all statements : List Value} {cause : Error}
    (failed : Source.body digits indent all statements = .error cause) : cause.OfText := by
  induction statements with
  | nil => cases failed
  | cons statement rest ih =>
    cases statement with
    | text line =>
      cases inner : Source.body digits indent all rest with
      | ok lines => simp [Source.body, inner, Except.map] at failed
      | error other =>
        simp only [Source.body, inner, Except.map, Except.error.injEq] at failed
        exact ih (failed ▸ inner)
    | _ =>
      rw [Source.body] at failed
      · rcases bind_eq_error_iff.mp failed with long | ⟨_, _, same⟩
        · obtain ⟨limit, _, rfl⟩ := Value.check_raises long
          exact .overlong limit
        · cases same
          exact .statement ..
      · simp

theorem result_raises {options : Options} {e : Expression} {cause : Error}
    (failed : Source.result options e = .error cause) : cause.OfText := by
  unfold Source.result at failed
  split at failed
  · cases failed
  · cases failed
    exact .conversion _
  · cases failed
    exact .result ..

theorem lines_raises {digits : Option Nat} {options : Options} {e : Expression} {cause : Error}
    (failed : Source.lines digits options e = .error cause) : cause.OfText := by
  rw [Source.lines, bind_eq_error_iff] at failed
  rcases failed with long | ⟨_, _, failed⟩
  · obtain ⟨limit, _, rfl⟩ := Value.checkAll_raises long
    exact .overlong limit
  rcases bind_eq_error_iff.mp failed with statement | ⟨_, _, failed⟩
  · exact body_raises statement
  rcases bind_eq_error_iff.mp failed with returned | ⟨_, _, failed⟩
  · exact result_raises returned
  · cases failed

theorem render_raises {digits : Option Nat} {options : Options} {e : Expression} {cause : Error}
    (failed : Source.render digits options e = .error cause) : cause.OfText := by
  unfold Source.render at failed
  cases written : Source.lines digits options e with
  | ok lines =>
    rw [written] at failed
    cases failed
  | error other =>
    rw [written] at failed
    cases failed
    exact lines_raises written

end Source

theorem Resolving.outside_raises {errors : Error → Prop} {action : Step σ α} (raises : action.Raises errors) :
    (outside action).Raises errors := by
  constructor
  intro run cause
  rw [outcome_outside]
  exact raises.outcome run.world cause

namespace Host

open Step.Raises

def Raised (host : Host σ) (cause : Error) : Prop :=
  ∃ emission world, ((host.deliver emission).outcome world).1 = .error cause

variable (host : Host σ)

theorem write_raises {errors : Error → Prop} (level : Int) (message : String) : (host.write level message).Raises errors :=
  ⟨by simp [Host.write]⟩

theorem announceFrom_raises (node : Node) (e : Expression) :
    (host.announceFrom node e).Raises fun cause => node.kind = .print ∧ (cause.OfText ∨ host.Raised cause) := by
  unfold announceFrom
  split
  · rename_i print
    unfold announce
    apply andThen ⟨by simp⟩
    intro run
    apply andThen (ofExcept fun cause failed => ⟨print, .inl (Source.render_raises failed)⟩)
    intro source
    apply andThen (Resolving.outside_raises (host.write_raises _ _))
    intro _
    apply andThen ⟨by simp [Resolving.onPass]⟩
    intro _
    exact Resolving.outside_raises ⟨fun world cause failed => ⟨print, .inr ⟨_, world, failed⟩⟩⟩
  · exact done _

theorem apply_raises (node : Node) (inputs : Inputs) (output : Option String) :
    (host.apply node inputs output).Raises fun cause =>
      cause.OfRule ∨ node.kind = .print ∧ (cause.OfText ∨ host.Raised cause) := by
  unfold apply
  apply andThen ⟨by simp⟩
  intro run
  apply andThen
  · constructor
    intro current cause
    rw [Resolving.outcome_naming]
    exact fun failed => .inl ((NodeScope.express_raises _).outcome current.pass.names cause failed)
  intro e
  apply andThen ((host.announceFrom_raises node e).imp fun cause => .inr)
  intro _
  exact done e

end Host

namespace Scene

open Step.Raises

variable (scene : Scene σ)

theorem note_raises {errors : Error → Prop} (level : Int) (message : String) : (scene.note level message).Raises errors :=
  Resolving.outside_raises (scene.host.write_raises level message)

theorem reuse_raises (frame : Frame) : (scene.reuse frame).Raises fun cause => ∃ label, cause = .unknownLabel label := by
  apply andThen (scene.note_raises _ _)
  intro _
  apply andThen ⟨by simp⟩
  intro run
  split
  · exact done _
  · exact stop ⟨_, rfl⟩

theorem conclusion_raises (job : Job) :
    (scene.conclusion job).Raises fun cause =>
      cause.OfRule ∨ job.node.kind = .print ∧ (cause.OfText ∨ scene.host.Raised cause) :=
  andThen (scene.note_raises _ _) fun _ => scene.host.apply_raises ..

end Scene

end ShaderGraph
