import Mathlib.Logic.Relation
import ShaderGraph.Proofs.Progress

namespace ShaderGraph

open Relation

variable {σ : Type}

structure Job where
  node : Node
  socket : Option String
  done : Inputs

def Job.frame (job : Job) : Frame := ⟨job.node.id, job.node.name, job.socket⟩

def Job.give (job : Job) (input : String) (e : Expression) : Job := { job with done := job.done ++ [(input, e)] }

structure Waiting where
  job : Job
  input : InputSocket
  left : List InputSocket

inductive Control where
  | ask (node : Node) (asked : Option String)
  | gather (job : Job) (left : List InputSocket)
  | close (job : Job) (outcome : Except Error Expression)
  | answer (outcome : Except Error Expression)

structure Config (σ : Type) where
  control : Control
  waiting : List Waiting
  run : Run σ

namespace Scene

def full (limit : Option Nat) (count : Nat) : Bool := limit.any (· ≤ count)

def request (scene : Scene σ) (limit : Option Nat) (node : Node) (asked : Option String) (waiting : List Waiting)
    (run : Run σ) : Config σ :=
  if full limit waiting.length then ⟨.answer (.error .nesting), waiting, run⟩
  else match node.output asked with
    | .error cause => ⟨.answer (.error (.failure cause)), waiting, run⟩
    | .ok socket =>
      let frame : Frame := ⟨node.id, node.name, socket⟩
      match run.pass.state frame.key with
      | .resolved => ⟨.answer ((scene.reuse frame).outcome run).1, waiting, ((scene.reuse frame).outcome run).2⟩
      | .inProgress => ⟨.answer (.error (frame.met run.stack)), waiting, run⟩
      | .unvisited => ⟨.gather ⟨node, socket, []⟩ (scene.catalog node.kind).inputs, waiting, run.enter frame⟩

def take (scene : Scene σ) (job : Job) (input : InputSocket) (left : List InputSocket) (waiting : List Waiting)
    (run : Run σ) : Config σ :=
  match scene.graph.inputLink? job.node.id input.name with
  | some link => match scene.graph.find? link.source with
    | some source => ⟨.ask source (some link.output), ⟨job, input, left⟩ :: waiting, run⟩
    | none => ⟨.gather (job.give input.name (.zero input.shape)) left, waiting, run⟩
  | none =>
    if input.required then ⟨.close job (.error (.failure (.linkRequired job.node.name input.name))), waiting, run⟩
    else ⟨.gather (job.give input.name (.zero input.shape)) left, waiting, run⟩

def conclusion (scene : Scene σ) (job : Job) : Resolving σ Expression := do
  scene.note LogLevel.debug ("Resolving " ++ outputText job.node.name job.socket)
  scene.host.apply job.node job.done job.socket

def next (scene : Scene σ) (limit : Option Nat) : Config σ → Option (Config σ)
  | ⟨.ask node asked, waiting, run⟩ => some (scene.request limit node asked waiting run)
  | ⟨.gather job (input :: left), waiting, run⟩ => some (scene.take job input left waiting run)
  | ⟨.gather job [], waiting, run⟩ =>
    some ⟨.close job ((scene.conclusion job).outcome run).1, waiting, ((scene.conclusion job).outcome run).2⟩
  | ⟨.close job outcome, waiting, run⟩ => some ⟨.answer outcome, waiting, run.leave job.frame outcome⟩
  | ⟨.answer (.ok e), ⟨job, input, left⟩ :: waiting, run⟩ => some ⟨.gather (job.give input.name e) left, waiting, run⟩
  | ⟨.answer (.error cause), ⟨job, _, _⟩ :: waiting, run⟩ => some ⟨.close job (.error cause), waiting, run⟩
  | ⟨.answer _, [], _⟩ => none

def Steps (scene : Scene σ) (limit : Option Nat) : Config σ → Config σ → Prop :=
  ReflTransGen fun config later => scene.next limit config = some later

theorem steps_of_next {scene : Scene σ} {limit : Option Nat} {config later : Config σ}
    (stepped : scene.next limit config = some later) : scene.Steps limit config later := .single stepped

variable {scene : Scene σ} {limit : Option Nat} {recur : Node → Option String → Resolving σ Expression}

theorem step_reuse {node : Node} {asked socket : Option String} {run : Run σ} (declared : node.output asked = .ok socket)
    (resolved : run.pass.state ⟨node.id, socket⟩ = .resolved) :
    (scene.step recur node asked).outcome run = (scene.reuse ⟨node.id, node.name, socket⟩).outcome run := by
  rw [step, declared, Step.outcome_bind_ok (Step.outcome_ofExcept_ok ..), Step.outcome_bind_ok (Step.outcome_get run)]
  simp only [Frame.key, resolved]

section Gather

variable {waiting : List Waiting}
  (answers : ∀ node asked later run, later.length = waiting.length + 1 →
    scene.Steps limit ⟨.ask node asked, later, run⟩
      ⟨.answer ((recur node asked).outcome run).1, later, ((recur node asked).outcome run).2⟩)

include answers

theorem take_steps (job : Job) (input : InputSocket) (left : List InputSocket) (run : Run σ) :
    (∀ e, ((scene.input recur job.node input).outcome run).1 = .ok e →
        scene.Steps limit ⟨.gather job (input :: left), waiting, run⟩
          ⟨.gather (job.give input.name e) left, waiting, ((scene.input recur job.node input).outcome run).2⟩) ∧
      ∀ cause, ((scene.input recur job.node input).outcome run).1 = .error cause →
        scene.Steps limit ⟨.gather job (input :: left), waiting, run⟩
          ⟨.close job (.error cause), waiting, ((scene.input recur job.node input).outcome run).2⟩ := by
  have first : scene.next limit ⟨.gather job (input :: left), waiting, run⟩ =
      some (scene.take job input left waiting run) := rfl
  unfold take at first
  unfold Scene.input
  cases joined : scene.graph.inputLink? job.node.id input.name with
  | none =>
    rw [joined] at first
    by_cases required : input.required = true
    · simp only [required, if_true] at first ⊢
      exact ⟨by simp, fun cause failed => by cases failed; exact steps_of_next first⟩
    · simp only [required] at first ⊢
      exact ⟨fun e ok => by cases ok; exact steps_of_next first, by simp⟩
  | some link =>
    rw [joined] at first
    cases found : scene.graph.find? link.source with
    | none =>
      simp only [found] at first ⊢
      exact ⟨fun e ok => by cases ok; exact steps_of_next first, by simp⟩
    | some source =>
      simp only [found] at first ⊢
      have asked := (steps_of_next first).trans
        (answers source (some link.output) (⟨job, input, left⟩ :: waiting) run rfl)
      generalize (recur source (some link.output)).outcome run = answer at asked ⊢
      obtain ⟨outcome, after⟩ := answer
      constructor
      · intro e ok
        simp only at ok
        subst ok
        exact asked.tail rfl
      · intro cause failed
        simp only at failed
        subst failed
        exact asked.tail rfl

theorem gather_steps (job : Job) (left : List InputSocket) (run : Run σ) :
    let gathered := Step.outcome (left.mapM fun socket => do return (socket.name, ← scene.input recur job.node socket)) run
    (∀ inputs, gathered.1 = .ok inputs →
        scene.Steps limit ⟨.gather job left, waiting, run⟩
          ⟨.gather { job with done := job.done ++ inputs } [], waiting, gathered.2⟩) ∧
      ∀ cause, gathered.1 = .error cause → ∃ reached : Job, reached.frame = job.frame ∧
        scene.Steps limit ⟨.gather job left, waiting, run⟩ ⟨.close reached (.error cause), waiting, gathered.2⟩ := by
  induction left generalizing job run with
  | nil =>
    constructor
    · intro inputs ok
      cases ok
      show scene.Steps limit _ ⟨.gather { job with done := job.done ++ [] } [], waiting, run⟩
      rw [List.append_nil]
      exact .refl
    · intro cause failed
      cases failed
  | cons input left ih =>
    have head := take_steps answers job input left run
    simp only [List.mapM_cons, bind_assoc, pure_bind]
    rw [Step.outcome_bind]
    rcases first : (scene.input recur job.node input).outcome run with ⟨cause | e, middle⟩
    · rw [first] at head
      constructor
      · intro inputs ok
        cases ok
      · intro other failed
        cases failed
        exact ⟨job, rfl, head.2 cause rfl⟩
    · rw [first] at head
      have rest := ih (job.give input.name e) middle
      simp only at rest ⊢
      rw [Step.outcome_bind]
      rcases second : Step.outcome (left.mapM fun socket => do
        return (socket.name, ← scene.input recur job.node socket)) middle with ⟨cause | inputs, later⟩
      · simp only [Job.give, second] at rest
        constructor
        · intro inputs ok
          cases ok
        · intro other failed
          cases failed
          obtain ⟨reached, same, steps⟩ := rest.2 cause rfl
          exact ⟨reached, same, (head.1 e rfl).trans steps⟩
      · simp only [Job.give, second] at rest
        constructor
        · intro all ok
          cases ok
          have steps := (head.1 e rfl).trans (rest.1 inputs rfl)
          simp only [List.append_assoc, List.singleton_append] at steps
          exact steps
        · intro cause failed
          cases failed

theorem work_steps (node : Node) (socket : Option String) (run : Run σ) :
    ∃ job : Job, job.frame = ⟨node.id, node.name, socket⟩ ∧
      scene.Steps limit ⟨.gather ⟨node, socket, []⟩ (scene.catalog node.kind).inputs, waiting, run⟩
        ⟨.close job ((scene.work recur node socket).outcome run).1, waiting,
          ((scene.work recur node socket).outcome run).2⟩ := by
  have gathers := gather_steps answers ⟨node, socket, []⟩ (scene.catalog node.kind).inputs run
  rcases gathered : (scene.inputs recur node).outcome run with ⟨cause | inputs, later⟩
  · have failed := gathered
    unfold Scene.inputs at failed
    simp only [failed] at gathers
    rw [work_failed gathered]
    exact gathers.2 cause rfl
  · have given := gathered
    unfold Scene.inputs at given
    simp only [given] at gathers
    have steps := gathers.1 inputs rfl
    simp only [List.nil_append] at steps
    have last : scene.next limit ⟨.gather ⟨node, socket, inputs⟩ [], waiting, later⟩ =
        some ⟨.close ⟨node, socket, inputs⟩ ((scene.conclusion ⟨node, socket, inputs⟩).outcome later).1, waiting,
          ((scene.conclusion ⟨node, socket, inputs⟩).outcome later).2⟩ := rfl
    have concluded : (scene.work recur node socket).outcome run =
        (scene.conclusion ⟨node, socket, inputs⟩).outcome later := by
      rw [work, Step.outcome_bind_ok gathered, conclusion]
    rw [concluded]
    exact ⟨⟨node, socket, inputs⟩, rfl, steps.tail last⟩

end Gather

/-- A resolution in steps, with the outputs that wait left alone. -/
theorem resolve_steps (scene : Scene σ) (depth : Nat) (node : Node) (asked : Option String) (waiting : List Waiting)
    (run : Run σ) :
    scene.Steps (some (waiting.length + depth)) ⟨.ask node asked, waiting, run⟩
      ⟨.answer ((scene.resolve depth node asked).outcome run).1, waiting,
        ((scene.resolve depth node asked).outcome run).2⟩ := by
  induction depth generalizing node asked waiting run with
  | zero =>
    have first : scene.next (some (waiting.length + 0)) ⟨.ask node asked, waiting, run⟩ =
        some ⟨.answer (.error .nesting), waiting, run⟩ := by simp [next, request, full]
    exact steps_of_next first
  | succ depth ih =>
    have free : full (some (waiting.length + (depth + 1))) waiting.length = false := by
      simp [full]
    have first : scene.next (some (waiting.length + (depth + 1))) ⟨.ask node asked, waiting, run⟩ =
      some (scene.request (some (waiting.length + (depth + 1))) node asked waiting run) := rfl
    unfold request at first
    rw [if_neg (by simp [free])] at first
    rw [resolve]
    cases declared : node.output asked with
    | error cause =>
      rw [step_undeclared declared]
      rw [declared] at first
      exact steps_of_next first
    | ok socket =>
      simp only [declared, Frame.key] at first
      cases visited : run.pass.state ⟨node.id, socket⟩ with
      | resolved =>
        rw [step_reuse declared visited]
        rw [visited] at first
        exact steps_of_next first
      | inProgress =>
        rw [step_active declared visited]
        rw [visited] at first
        exact steps_of_next first
      | unvisited =>
        rw [step_visit declared visited]
        rw [visited] at first
        have answers (node : Node) (asked : Option String) (later : List Waiting) (run : Run σ)
            (one : later.length = waiting.length + 1) :
            scene.Steps (some (waiting.length + (depth + 1))) ⟨.ask node asked, later, run⟩
              ⟨.answer ((scene.resolve depth node asked).outcome run).1, later,
                ((scene.resolve depth node asked).outcome run).2⟩ := by
          have steps := ih node asked later run
          rw [one] at steps
          have same : waiting.length + (depth + 1) = waiting.length + 1 + depth := by omega
          rw [same]
          exact steps
        obtain ⟨job, frame, steps⟩ := work_steps answers node socket (run.enter ⟨node.id, node.name, socket⟩)
        have closed := ((steps_of_next first).trans steps).tail rfl
        rw [frame] at closed
        exact closed

end Scene

end ShaderGraph
