import ShaderGraph.Proofs.History

namespace ShaderGraph

variable {σ α β : Type}

namespace Pass

def Tidy (pass : Pass) : Prop := ∀ entry ∈ pass.states, entry.2 ≠ .unvisited

theorem Tidy.unmark {pass : Pass} (tidy : pass.Tidy) (key : OutputKey) : (pass.unmark key).Tidy :=
  fun entry member => tidy entry (List.mem_of_mem_filter member)

theorem Tidy.mark {pass : Pass} (tidy : pass.Tidy) (key : OutputKey) {state : VisitState} (visited : state ≠ .unvisited) :
    (pass.mark key state).Tidy := by
  intro entry member
  rcases List.mem_cons.mp member with rfl | old
  · exact visited
  · exact tidy.unmark key entry old

theorem Tidy.begin {pass : Pass} (tidy : pass.Tidy) (key : OutputKey) : (pass.begin key).Tidy :=
  tidy.mark key (by decide)

theorem Tidy.finish {pass : Pass} (tidy : pass.Tidy) (key : OutputKey) (outcome : Except Error Expression) :
    (pass.finish key outcome).Tidy := by
  cases outcome with
  | ok e =>
    have kept : (pass.keep key e).Tidy := tidy
    exact kept.mark key (by decide)
  | error cause =>
    rcases pass.finish_error key cause with same | same
    · rw [same]
      exact tidy
    · rw [same]
      exact tidy.unmark key

theorem Tidy.finish_begin {pass : Pass} (tidy : pass.Tidy) {key : OutputKey} (unvisited : pass.state key = .unvisited)
    {cause : Error} (failed : cause.isExit = false) : (pass.begin key).finish key (.error cause) = pass := by
  have unmarked : pass.states.lookup key = none := by
    cases found : pass.states.lookup key with
    | none => rfl
    | some state =>
      have none : state = .unvisited := by simpa [Pass.state, found] using unvisited
      obtain ⟨front, back, split, _⟩ := List.lookup_eq_some_iff.mp found
      exact absurd none (tidy (key, state) (by simp [split]))
  have others : pass.states.filter (·.1 != key) = pass.states := by
    rw [List.filter_eq_self]
    intro entry member
    have different := List.lookup_eq_none_iff.mp unmarked entry member
    rw [bne_iff_ne] at different ⊢
    exact different.symm
  rw [Pass.finish_failed _ _ failed]
  simp [Pass.begin, Pass.mark, Pass.unmark, others]

end Pass

namespace Run

def Recalls (run later : Run σ) : Prop :=
  ∀ key e, run.pass.state key = .resolved → run.pass.result? key = some e →
    later.pass.state key = .resolved ∧ later.pass.result? key = some e

structure Similar (run again : Run σ) : Prop where
  options : again.pass.options = run.pass.options
  memo : again.pass.memo = run.pass.memo
  names : again.pass.names = run.pass.names
  state : again.pass.state = run.pass.state
  stack : again.stack = run.stack

variable {run later again : Run σ} {cause : Error}

theorem Recalls.refl (run : Run σ) : run.Recalls run := fun _ _ resolved known => ⟨resolved, known⟩

theorem Recalls.trans {first second third : Run σ} (left : first.Recalls second) (right : second.Recalls third) :
    first.Recalls third := by
  intro key e resolved known
  obtain ⟨still, same⟩ := left key e resolved known
  exact right key e still same

theorem Quiet.similar (quiet : run.Quiet later) : run.Similar later :=
  ⟨quiet.options, quiet.memo, quiet.names, quiet.state, quiet.stack⟩

theorem Quiet.tidy (quiet : run.Quiet later) (tidy : run.pass.Tidy) : later.pass.Tidy := by
  rw [Pass.Tidy, quiet.states]
  exact tidy

theorem Similar.recalls (similar : run.Similar again) : run.Recalls again := by
  intro key e resolved known
  rw [similar.state, Pass.result?, similar.memo]
  exact ⟨resolved, known⟩

theorem Recalls.visit {frame : Frame} (unvisited : run.pass.state frame.key = .unvisited)
    (recalls : (run.enter frame).Recalls later) (outcome : Except Error Expression) :
    run.Recalls (later.leave frame outcome) := by
  intro key e resolved known
  have other : key ≠ frame.key := by
    intro same
    rw [same, unvisited] at resolved
    cases resolved
  have inside := recalls key e (by simpa [Run.enter, other] using resolved) known
  cases outcome with
  | error cause => simpa [Run.leave, other, Pass.result?] using inside
  | ok result => simpa [Run.leave, other, Pass.result?_finish] using inside

theorem Similar.enter {frame : Frame} (similar : (later.leave frame (.error cause)).Similar again)
    (opened : later.pass.state frame.key = .inProgress) (stack : later.stack = frame :: run.stack) :
    later.Similar (again.enter frame) := by
  have options := similar.options
  have memo := similar.memo
  have names := similar.names
  simp only [Run.leave, Pass.options_finish, Pass.memo_finish_error, Pass.names_finish] at options memo names
  refine ⟨options, memo, names, ?_, ?_⟩
  · funext key
    by_cases same : key = frame.key
    · simp [Run.enter, same, opened]
    · simp [Run.enter, same, similar.state, Run.leave]
  · simp [Run.enter, similar.stack, Run.leave, stack]

end Run

namespace Resolving

def Answers (action : Resolving σ α) (outcome : Except Error α) (run : Run σ) : Prop :=
  ∃ world, action.outcome run = (outcome, { run with world := world })

theorem Answers.andThen {action : Resolving σ α} {next : α → Resolving σ β} {a : α} {outcome : Except Error β}
    {run : Run σ} (first : action.Answers (.ok a) run)
    (rest : ∀ world, (next a).Answers outcome { run with world := world }) : (action >>= next).Answers outcome run := by
  obtain ⟨world, here⟩ := first
  obtain ⟨after, there⟩ := rest world
  exact ⟨after, by rw [Step.outcome_bind_ok here, there]⟩

/-- An action that keeps all results, and that fails again in a run like the one in which a failure of these families left
    it, unless there is an excuse. -/
structure Retains (families : List FailureFamily) (excused : Failure → Prop) (action : Resolving σ α) (run : Run σ)
    (result : Except Error α × Run σ) : Prop where
  recalls : run.Recalls result.2
  tidy : run.pass.Tidy → result.2.pass.Tidy
  failed : ∀ cause, result.1 = .error (.failure cause) → cause.family ∈ families → ¬excused cause →
    ∀ again, result.2.Similar again → again.pass.Tidy → action.Answers (.error (.failure cause)) again

/-- An action that, once it succeeded, has the same answer as long as all results are there. -/
structure Repeats (families : List FailureFamily) (excused : Failure → Prop) (action : Resolving σ α) (run : Run σ)
    (result : Except Error α × Run σ) : Prop extends Retains families excused action run result where
  ok : ∀ a, result.1 = .ok a → ∀ again, result.2.Recalls again → action.Answers (.ok a) again

variable {families : List FailureFamily} {excused : Failure → Prop} {action : Resolving σ α}
  {next : α → Resolving σ β} {run : Run σ}

theorem repeats_pure (a : α) (run : Run σ) :
    Repeats families excused (pure a) run ((pure a : Resolving σ α).outcome run) := by
  refine ⟨⟨.refl run, id, by simp⟩, ?_⟩
  intro b same again _
  cases same
  exact ⟨again.world, rfl⟩

theorem repeats_throw (cause : Error) (run : Run σ) :
    Repeats families excused (throw cause) run ((throw cause : Resolving σ α).outcome run) := by
  refine ⟨⟨.refl run, id, ?_⟩, by simp⟩
  intro other same _ _ again _ _
  cases same
  exact ⟨again.world, rfl⟩

theorem Repeats.mono {more : Failure → Prop} {result : Except Error α × Run σ}
    (repeats : Repeats families excused action run result) (weaker : ∀ cause, excused cause → more cause) :
    Repeats families more action run result := by
  refine ⟨⟨repeats.recalls, repeats.tidy, ?_⟩, repeats.ok⟩
  intro cause same member unexcused
  exact repeats.failed cause same member fun excuse => unexcused (weaker cause excuse)

theorem Repeats.retains (first : Repeats families excused action run (action.outcome run))
    (rest : ∀ a middle, Retains families excused (next a) middle ((next a).outcome middle)) :
    Retains families excused (action >>= next) run ((action >>= next).outcome run) := by
  rcases here : action.outcome run with ⟨cause | a, middle⟩
  · rw [here] at first
    rw [Step.outcome_bind_error here]
    refine ⟨first.recalls, first.tidy, ?_⟩
    intro other same member unexcused again similar tidy
    cases same
    obtain ⟨world, fails⟩ := first.failed other rfl member unexcused again similar tidy
    exact ⟨world, Step.outcome_bind_error fails⟩
  · rw [here] at first
    rw [Step.outcome_bind_ok here]
    have last := rest a middle
    refine ⟨first.recalls.trans last.recalls, fun tidy => last.tidy (first.tidy tidy), ?_⟩
    intro cause same member unexcused again similar tidy
    apply (first.ok a rfl again (last.recalls.trans similar.recalls)).andThen
    intro world
    exact last.failed cause same member unexcused _
      ⟨similar.options, similar.memo, similar.names, similar.state, similar.stack⟩ tidy

theorem Repeats.andThen (first : Repeats families excused action run (action.outcome run))
    (rest : ∀ a middle, Repeats families excused (next a) middle ((next a).outcome middle)) :
    Repeats families excused (action >>= next) run ((action >>= next).outcome run) := by
  refine ⟨first.retains fun a middle => (rest a middle).toRetains, ?_⟩
  intro b same again recalls
  rcases here : action.outcome run with ⟨cause | a, middle⟩
  · rw [Step.outcome_bind_error here] at same
    cases same
  · rw [here] at first
    rw [Step.outcome_bind_ok here] at same recalls
    have last := rest a middle
    apply (first.ok a rfl again (last.recalls.trans recalls)).andThen
    intro world
    exact last.ok b same _ recalls

end Resolving

/-- A failure that is not about the text of a shader comes from the rule itself, or from the receiver of what a Print node
    emits. -/
theorem Host.apply_failed {host : Host σ} {node : Node} {inputs : Inputs} {output : Option String} {run : Run σ}
    {cause : Failure} (failed : ((host.apply node inputs output).outcome run).1 = .error (.failure cause))
    (readable : cause.family ≠ .emission) :
    (NodeScope.express ⟨node, inputs, output, run.pass.options⟩).outcome run.pass.names =
        (.error (.failure cause), run.pass.names) ∨
      node.kind = .print ∧ host.Raised (.failure cause) := by
  rw [apply, Step.outcome_bind_ok (Step.outcome_get run)] at failed
  have naming := Resolving.outcome_naming (NodeScope.express ⟨node, inputs, output, run.pass.options⟩) run
  rcases NodeScope.express_cases ⟨node, inputs, output, run.pass.options⟩ run.pass.names with
    ⟨other, stopped⟩ | ⟨result, expressed, _⟩
  · rw [stopped] at naming
    rw [Step.outcome_bind_error naming] at failed
    cases failed
    exact .inl stopped
  · rw [expressed] at naming
    rw [Step.outcome_bind_ok naming] at failed
    rcases announced : (host.announceFrom node result.1).outcome (run.named result.2) with ⟨other | _, after⟩
    · rw [Step.outcome_bind_error announced] at failed
      cases failed
      obtain ⟨print, text | raised⟩ :=
        (host.announceFrom_raises node result.1).outcome _ _ (congrArg Prod.fst announced)
      · cases text <;> exact absurd rfl readable
      · exact .inr ⟨print, raised⟩
    · rw [Step.outcome_bind_ok announced] at failed
      cases failed

namespace Scene

open Resolving

variable {scene : Scene σ} {families : List FailureFamily} {excused : Failure → Prop}

theorem apply_retains (silent : .emission ∉ families) (node : Node) (inputs : Inputs) (output : Option String)
    (run : Run σ) :
    Retains families (fun cause => node.kind = .print ∧ scene.host.Raised (.failure cause))
      (scene.host.apply node inputs output) run ((scene.host.apply node inputs output).outcome run) := by
  constructor
  · rcases scene.host.apply_cases node inputs output run with ⟨_, _, quiet⟩ | ⟨result, _, _, quiet, _⟩
    · exact quiet.similar.recalls
    · have named : run.Recalls (run.named result.2) := .refl run
      exact named.trans quiet.similar.recalls
  · intro tidy
    rcases scene.host.apply_cases node inputs output run with ⟨_, _, quiet⟩ | ⟨result, _, _, quiet, _⟩
    · exact quiet.tidy tidy
    · exact quiet.tidy tidy
  · intro cause failed member unexcused again similar _
    have readable : cause.family ≠ .emission := fun same => silent (same ▸ member)
    have expressed := (Host.apply_failed failed readable).resolve_right unexcused
    have same : again.pass.options = run.pass.options ∧ again.pass.names = run.pass.names := by
      rcases scene.host.apply_cases node inputs output run with ⟨_, _, quiet⟩ | ⟨result, _, ok, _⟩
      · exact ⟨similar.options.trans quiet.options, similar.names.trans quiet.names⟩
      · rw [ok] at failed
        cases failed
    rw [← same.1, ← same.2] at expressed
    have naming := Resolving.outcome_naming (NodeScope.express ⟨node, inputs, output, again.pass.options⟩) again
    rw [expressed] at naming
    refine ⟨again.world, ?_⟩
    rw [Host.apply, Step.outcome_bind_ok (Step.outcome_get again), Step.outcome_bind_error naming]
    rfl

theorem note_repeats (level : Int) (message : String) (run : Run σ) :
    Repeats families excused (scene.note level message) run ((scene.note level message).outcome run) := by
  have answer (run : Run σ) : (scene.note level message).Answers (.ok ()) run := ⟨_, Resolving.outcome_outside _ run⟩
  obtain ⟨world, same⟩ := answer run
  rw [same]
  exact ⟨⟨.refl run, id, by simp⟩, fun _ _ again _ => answer again⟩

section Step

variable (sound : scene.graph.Sound) {recur : Node → Option String → Resolving σ Expression}
  (repeats : ∀ node : Node, node.kind ≠ .print → ∀ asked run,
    Repeats families excused (recur node asked) run ((recur node asked).outcome run))

include sound repeats

theorem input_repeats (node : Node) (socket : InputSocket) (run : Run σ) :
    Repeats families excused (scene.input recur node socket) run ((scene.input recur node socket).outcome run) := by
  unfold input
  cases joined : scene.graph.inputLink? node.id socket.name with
  | none =>
    simp only
    split
    · exact repeats_throw _ run
    · exact repeats_pure _ run
  | some link =>
    obtain ⟨source, _, found, _, declared⟩ := sound.source joined
    simp only [found]
    exact repeats source (NodeKind.not_print_of_hasOutput declared) (some link.output) run

theorem inputs_repeats (node : Node) (run : Run σ) :
    Repeats families excused (scene.inputs recur node) run ((scene.inputs recur node).outcome run) := by
  unfold inputs
  induction (scene.catalog node.kind).inputs generalizing run with
  | nil => exact repeats_pure [] run
  | cons socket sockets ih =>
    rw [List.mapM_cons]
    apply Repeats.andThen
    · exact (input_repeats sound repeats node socket run).andThen fun e middle => repeats_pure _ middle
    · intro entry middle
      exact (ih middle).andThen fun entries later => repeats_pure _ later

end Step

theorem hit_repeats {recur : Node → Option String → Resolving σ Expression} {node : Node} {asked socket : Option String}
    (declared : node.output asked = .ok socket) {e : Expression} {later again : Run σ}
    (resolved : later.pass.state ⟨node.id, socket⟩ = .resolved) (known : later.pass.result? ⟨node.id, socket⟩ = some e)
    (recalls : later.Recalls again) : (scene.step recur node asked).Answers (.ok e) again := by
  obtain ⟨still, same⟩ := recalls _ e resolved known
  exact step_hit declared still same

section Visit

variable (sound : scene.graph.Sound) (silent : .emission ∉ families) {depth : Nat}
  (repeats : ∀ node asked run, Repeats families (fun cause => node.kind = .print ∧ scene.host.Raised (.failure cause))
    (scene.resolve depth node asked) run ((scene.resolve depth node asked).outcome run))

include sound silent repeats

theorem work_retains (node : Node) (socket : Option String) (run : Run σ) :
    Retains families (fun cause => node.kind = .print ∧ scene.host.Raised (.failure cause))
      (scene.work (scene.resolve depth) node socket) run ((scene.work (scene.resolve depth) node socket).outcome run) := by
  unfold work
  -- The sources of links are no Print nodes, so there is no excuse for them.
  refine Repeats.retains (inputs_repeats sound (fun source other asked run => ?_) node run) fun inputs middle => ?_
  · exact (repeats source asked run).mono fun _ excuse => absurd excuse.1 other
  apply (note_repeats _ _ middle).retains
  intro _ noted
  exact apply_retains silent node inputs socket noted

theorem visit_repeats (node : Node) {asked socket : Option String} (declared : node.output asked = .ok socket)
    {run : Run σ} (visited : run.pass.state ⟨node.id, socket⟩ = .unvisited) :
    Repeats families (fun cause => node.kind = .print ∧ scene.host.Raised (.failure cause))
      (scene.step (scene.resolve depth) node asked) run ((scene.step (scene.resolve depth) node asked).outcome run) := by
  rw [step_visit declared visited]
  generalize framed : (⟨node.id, node.name, socket⟩ : Frame) = frame
  have key : frame.key = ⟨node.id, socket⟩ := by rw [← framed]; rfl
  rw [← key] at visited
  have worked := work_retains sound silent repeats node socket (run.enter frame)
  have resolves : ∀ node, True → ∀ asked run, scene.Resolves (fun _ => True) node asked run
      ((scene.resolve depth node asked).outcome run) :=
    fun node _ asked run => scene.resolve_resolves (fun _ _ => trivial) depth trivial asked run
  obtain ⟨middle, advances, ends⟩ := work_advances resolves (fun _ _ => trivial) node socket (run.enter frame)
  rcases here : (scene.work (scene.resolve depth) node socket).outcome (run.enter frame) with ⟨cause | e, after⟩
  all_goals rw [here] at worked ends
  · have quiet : middle.Quiet after := by
      rcases ends with ⟨_, _, quiet⟩ | ⟨_, _, _, _, ok, _⟩
      · exact quiet
      · cases ok
    refine ⟨⟨.visit visited worked.recalls _, fun tidy => (worked.tidy (tidy.begin _)).finish _ _, ?_⟩, by simp⟩
    -- The output was given up, so it is entered again, with what was resolved in it at hand and the same stack.
    intro failure same member unexcused again similar tidy
    cases same
    have opened : after.pass.state frame.key = .inProgress := by
      rw [quiet.state]
      exact advances.opened _ (by simp [Run.enter])
    have stack : after.stack = frame :: run.stack := quiet.stack.trans advances.stack
    have unvisited : again.pass.state frame.key = .unvisited := by
      rw [similar.state]
      simp [Run.leave, Error.isExit]
    obtain ⟨world, redone⟩ := worked.failed failure rfl member unexcused (again.enter frame)
      (similar.enter opened stack) (tidy.begin _)
    refine ⟨world, ?_⟩
    rw [step_visit declared (key ▸ unvisited), framed, redone]
    simp [Run.leave, Run.enter, tidy.finish_begin unvisited (rfl : (Error.failure failure).isExit = false)]
  · refine ⟨⟨.visit visited worked.recalls _, fun tidy => (worked.tidy (tidy.begin _)).finish _ _, by simp⟩, ?_⟩
    intro other ok again recalls
    cases ok
    apply hit_repeats declared _ _ recalls
    · rw [← key]
      simp [Run.leave]
    · rw [← key]
      simp [Run.leave, Pass.result?_finish]

theorem step_repeats (node : Node) (asked : Option String) (run : Run σ) :
    Repeats families (fun cause => node.kind = .print ∧ scene.host.Raised (.failure cause))
      (scene.step (scene.resolve depth) node asked) run ((scene.step (scene.resolve depth) node asked).outcome run) := by
  cases declared : node.output asked with
  | error cause =>
    rw [step_undeclared declared]
    refine ⟨⟨.refl run, id, ?_⟩, by simp⟩
    intro other same _ _ again _ _
    cases same
    exact ⟨again.world, step_undeclared declared⟩
  | ok socket =>
    cases visited : run.pass.state ⟨node.id, socket⟩ with
    | resolved =>
      cases known : run.pass.result? ⟨node.id, socket⟩ with
      | some e =>
        obtain ⟨world, same⟩ : (scene.step (scene.resolve depth) node asked).Answers (.ok e) run :=
          step_hit declared visited known
        rw [same]
        refine ⟨⟨.refl run, id, by simp⟩, ?_⟩
        intro other ok again recalls
        cases ok
        exact hit_repeats declared visited known recalls
      | none =>
        obtain ⟨later, same, quiet⟩ : ∃ later, (scene.step (scene.resolve depth) node asked).outcome run =
            (.error (.unknownLabel (socket.getD "None")), later) ∧ run.Quiet later :=
          step_unknown declared visited known
        rw [same]
        exact ⟨⟨quiet.similar.recalls, quiet.tidy, by simp⟩, by simp⟩
    | inProgress =>
      rw [step_active declared visited]
      refine ⟨⟨.refl run, id, ?_⟩, by simp⟩
      intro cause same _ _ again similar _
      have active : again.pass.state ⟨node.id, socket⟩ = .inProgress := by
        rw [similar.state]
        exact visited
      have stack : again.stack = run.stack := similar.stack
      have met : (scene.step (scene.resolve depth) node asked).outcome again = _ := step_active declared active
      rw [stack] at met
      exact ⟨again.world, met.trans (Prod.ext same rfl)⟩
    | unvisited => exact visit_repeats sound silent repeats node declared visited

end Visit

theorem resolve_repeats (sound : scene.graph.Sound) (silent : .emission ∉ families) (depth : Nat) (node : Node)
    (asked : Option String) (run : Run σ) :
    Repeats families (fun cause => node.kind = .print ∧ scene.host.Raised (.failure cause))
      (scene.resolve depth node asked) run ((scene.resolve depth node asked).outcome run) := by
  induction depth generalizing node asked run with
  | zero => exact repeats_throw .nesting run
  | succ depth ih => exact step_repeats sound silent ih node asked run

variable {options : Options} {run : Run σ}

theorem History.tidy (history : scene.History options run) (sound : scene.graph.Sound) : run.pass.Tidy := by
  induction history with
  | start world => exact fun _ member => by cases member
  | @resolve run _ depth node _ asked ih =>
    have none : FailureFamily.emission ∉ [] := List.not_mem_nil
    exact (resolve_repeats sound none depth node asked run).tidy ih
  | outside _ _ ih => exact ih

def reported : List FailureFamily := [.cyclicGraph, .missingRequiredInput, .unknownOutputSocket]

/-- A resolution that met a cycle, a missing link or an unknown output, in a pass that others went before, meets it again
    when it is repeated, and leaves the pass as it is, unless it is one of a Print node and the failure is one that the
    receiver of its emission raises. Outputs that were resolved before keep their results in any case. -/
theorem failure_repeats (built : scene.graph.Built) (history : scene.History options run) (depth : Nat) (node : Node)
    (asked : Option String) {cause : Failure} {later : Run σ}
    (failed : (scene.resolve depth node asked).outcome run = (.error (.failure cause), later))
    (kind : cause.family ∈ reported) :
    ((∀ world, (scene.resolve depth node asked).Answers (.error (.failure cause)) { later with world := world }) ∨
        node.kind = .print ∧ scene.host.Raised (.failure cause)) ∧
      ∀ other otherAsked socket, Node.output other otherAsked = .ok socket →
        run.pass.state ⟨other.id, socket⟩ = .resolved →
        ∃ e, ∀ room world, (scene.resolve (room + 1) other otherAsked).Answers (.ok e) { run with world := world } ∧
          (scene.resolve (room + 1) other otherAsked).Answers (.ok e) { later with world := world } := by
  have repeats := resolve_repeats built.sound (by decide : .emission ∉ reported) depth node asked run
  rw [failed] at repeats
  constructor
  · by_cases excuse : node.kind = .print ∧ scene.host.Raised (.failure cause)
    · exact .inr excuse
    · refine .inl fun world => ?_
      exact repeats.failed cause rfl kind excuse _ ⟨rfl, rfl, rfl, rfl, rfl⟩ (repeats.tidy (history.tidy built.sound))
  · intro other otherAsked socket declared resolved
    obtain ⟨e, known⟩ := history.coherent.result? resolved
    refine ⟨e, ?_⟩
    intro room world
    exact ⟨hit_repeats declared resolved known (.refl run), hit_repeats declared resolved known repeats.recalls⟩

theorem failure_repeats_entangled :
    let scene : Scene (List Emission) := ⟨.shipped, .entangled, .recorder .standard⟩
    let uv : Node := ⟨⟨0, 0⟩, .uv, "uv", []⟩
    let view : Node := ⟨⟨0, 3⟩, .preview, "view", []⟩
    let run := ((scene.resolve 9 uv (some "y")).outcome ⟨.fresh .standard, [], []⟩).2
    let cause : Failure :=
      .cycle "join" (some "vec") [("join", some "vec"), ("split", some "y"), ("join", some "vec")]
    ∃ later, scene.graph.Built ∧ scene.History .standard run ∧
      (scene.resolve 9 view none).outcome run = (.error (.failure cause), later) ∧ cause.family ∈ reported ∧
      later.pass.memo.map Prod.fst = [⟨⟨0, 0⟩, some "x"⟩, ⟨⟨0, 0⟩, some "y"⟩] ∧
      (∀ world, (scene.resolve 9 view none).Answers (.error (.failure cause)) { later with world := world }) ∧
      run.pass.state ⟨⟨0, 0⟩, some "y"⟩ = .resolved ∧
      ∃ e, ∀ room world, (scene.resolve (room + 1) uv (some "y")).Answers (.ok e) { run with world := world } ∧
        (scene.resolve (room + 1) uv (some "y")).Answers (.ok e) { later with world := world } := by
  intro scene uv view run cause
  have history : scene.History .standard run :=
    (History.start []).resolve 9 List.mem_cons_self (some "y")
  have raised : ((scene.resolve 9 view none).outcome run).1 = .error (.failure cause) := by rfl
  have kind : cause.family ∈ reported := by decide
  have resolved : run.pass.state ⟨⟨0, 0⟩, some "y"⟩ = .resolved := by decide +kernel
  have settled : ((scene.resolve 9 view none).outcome run).2.pass.memo.map Prod.fst =
      [⟨⟨0, 0⟩, some "x"⟩, ⟨⟨0, 0⟩, some "y"⟩] := by decide +kernel
  rcases failed : (scene.resolve 9 view none).outcome run with ⟨outcome, later⟩
  rw [failed] at raised settled
  obtain rfl : outcome = .error (.failure cause) := raised
  obtain ⟨again, others⟩ := failure_repeats Graph.entangled_built history 9 view none failed kind
  have kept := others uv (some "y") (some "y") rfl resolved
  have repeated := again.resolve_right fun excuse => absurd excuse.1 (by decide)
  exact ⟨later, Graph.entangled_built, history, rfl, kind, settled, repeated, resolved, kept⟩

end Scene

end ShaderGraph
