import ShaderGraph.Error

namespace ShaderGraph

variable {σ τ α β : Type}

/-- How two steps end side by side: with one result, in related states; both with errors; or the second one breaks off,
    whatever the first one does. -/
inductive Paired (failed : Error × σ → Error × τ → Prop) (breaks : Error → Prop) (relation : σ → τ → Prop) :
    Except Error α × σ → Except Error α × τ → Prop
  | ok (result : α) {state : σ} {twin : τ} (related : relation state twin) :
      Paired failed breaks relation (.ok result, state) (.ok result, twin)
  | error {cause twinCause : Error} {state : σ} {twin : τ} (both : failed (cause, state) (twinCause, twin)) :
      Paired failed breaks relation (.error cause, state) (.error twinCause, twin)
  | broken (left : Except Error α × σ) {cause : Error} {twin : τ} (stop : breaks cause) :
      Paired failed breaks relation left (.error cause, twin)

namespace Paired

variable {failed : Error × σ → Error × τ → Prop} {breaks : Error → Prop} {relation : σ → τ → Prop} {state : σ}
  {twinState : τ}

theorem bind {step : Step σ α} {twin : Step τ α} {next : α → Step σ β} {twinNext : α → Step τ β}
    (first : Paired failed breaks relation (step.outcome state) (twin.outcome twinState))
    (rest : ∀ a middle twinMiddle, relation middle twinMiddle →
      Paired failed breaks relation ((next a).outcome middle) ((twinNext a).outcome twinMiddle)) :
    Paired failed breaks relation ((step >>= next).outcome state) ((twin >>= twinNext).outcome twinState) := by
  rw [Step.outcome_bind, Step.outcome_bind]
  generalize step.outcome state = left at first ⊢
  generalize twin.outcome twinState = right at first ⊢
  cases first with
  | ok a related => exact rest a _ _ related
  | error both => exact .error both
  | broken left stop => exact .broken _ stop

theorem mapM {step : α → Step σ β} {twin : α → Step τ β} (list : List α)
    (each : ∀ a ∈ list, ∀ state twinState, relation state twinState →
      Paired failed breaks relation ((step a).outcome state) ((twin a).outcome twinState))
    (related : relation state twinState) :
    Paired failed breaks relation (Step.outcome (list.mapM step) state) (Step.outcome (list.mapM twin) twinState) := by
  induction list generalizing state twinState with
  | nil => exact .ok [] related
  | cons a list ih =>
    rw [List.mapM_cons, List.mapM_cons]
    apply (each a List.mem_cons_self state twinState related).bind
    intro b middle twinMiddle related
    apply (ih (fun other member => each other (List.mem_cons_of_mem a member)) related).bind
    intro rest last twinLast related
    exact .ok (b :: rest) related

theorem forM {step : α → Step σ Unit} {twin : α → Step τ Unit} (list : List α)
    (each : ∀ a state twinState, relation state twinState →
      Paired failed breaks relation ((step a).outcome state) ((twin a).outcome twinState))
    (related : relation state twinState) :
    Paired failed breaks relation (Step.outcome (forM list step) state) (Step.outcome (forM list twin) twinState) := by
  induction list generalizing state twinState with
  | nil => exact .ok () related
  | cons a list ih =>
    rw [List.forM_cons, List.forM_cons]
    apply (each a state twinState related).bind
    intro _ middle twinMiddle related
    exact ih related

theorem foldlM {step : β → α → Step σ β} {twin : β → α → Step τ β} (list : List α)
    (each : ∀ a ∈ list, ∀ b state twinState, relation state twinState →
      Paired failed breaks relation ((step b a).outcome state) ((twin b a).outcome twinState)) {b : β}
    (related : relation state twinState) :
    Paired failed breaks relation (Step.outcome (list.foldlM step b) state)
      (Step.outcome (list.foldlM twin b) twinState) := by
  induction list generalizing b state twinState with
  | nil => exact .ok b related
  | cons a list ih =>
    rw [List.foldlM_cons, List.foldlM_cons]
    apply (each a List.mem_cons_self b state twinState related).bind
    intro next middle twinMiddle related
    exact ih (fun other member => each other (List.mem_cons_of_mem a member)) related

theorem mono {later : σ → τ → Prop} {left : Except Error α × σ} {right : Except Error α × τ}
    (paired : Paired failed breaks relation left right)
    (keeps : ∀ a, left.1 = .ok a → right.1 = .ok a → relation left.2 right.2 → later left.2 right.2) :
    Paired failed breaks later left right := by
  cases paired with
  | ok a related => exact .ok a (keeps a rfl rfl related)
  | error both => exact .error both
  | broken left stop => exact .broken left stop

end Paired

abbrev Agree (relation : σ → τ → Prop) : Except Error α × σ → Except Error α × τ → Prop :=
  Paired (fun left right => right.1 = left.1 ∧ relation left.2 right.2) (fun _ => False) relation

namespace Agree

variable {relation : σ → τ → Prop} {left : Except Error α × σ} {right : Except Error α × τ}

theorem intro (outcome : right.1 = left.1) (state : relation left.2 right.2) : Agree relation left right := by
  obtain ⟨result, middle⟩ := left
  obtain ⟨twinResult, twinMiddle⟩ := right
  cases outcome
  cases result with
  | ok a => exact .ok a state
  | error cause => exact .error ⟨rfl, state⟩

theorem outcome (agree : Agree relation left right) : right.1 = left.1 := by
  cases agree with
  | ok => rfl
  | error both => exact congrArg Except.error both.1
  | broken _ stop => exact stop.elim

theorem state (agree : Agree relation left right) : relation left.2 right.2 := by
  cases agree with
  | ok _ related => exact related
  | error both => exact both.2
  | broken _ stop => exact stop.elim

theorem ofExcept {ε : Type} (wrap : ε → Error) (result : Except ε α) {state : σ} {twinState : τ}
    (related : relation state twinState) :
    Agree relation ((Step.ofExcept wrap result : Step σ α).outcome state)
      ((Step.ofExcept wrap result : Step τ α).outcome twinState) := by
  cases result <;> exact .intro rfl related

end Agree

end ShaderGraph
