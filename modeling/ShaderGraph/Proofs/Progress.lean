import Mathlib.Data.List.Forall2
import Mathlib.Logic.Relation
import ShaderGraph.Proofs.Rule
import ShaderGraph.Resolution

namespace ShaderGraph

open Relation

variable {σ α : Type}

def Run.named (run : Run σ) (names : NameTable) : Run σ := { run with pass := { run.pass with names := names } }

namespace Resolving

theorem outcome_outside (action : Step σ α) (run : Run σ) :
    (outside action).outcome run =
      ((action.outcome run.world).1, { run with world := (action.outcome run.world).2 }) := by
  simp only [outside, Step.outcome_bind, Step.outcome_get]
  rcases action.outcome run.world with ⟨outcome | outcome, world⟩ <;> rfl

theorem outcome_naming (action : Naming α) (run : Run σ) :
    (naming action).outcome run =
      ((action.outcome run.pass.names).1, run.named (action.outcome run.pass.names).2) := by
  simp only [naming, Step.outcome_bind, Step.outcome_get]
  rcases action.outcome run.pass.names with ⟨outcome | outcome, names⟩ <;> rfl

theorem naming_relay {node : Node} {input : String} (passes : node.kind.relay? = some input) {inputs : Inputs}
    {e : Expression} (given : inputs.lookup input = some e) (output : Option String) (run : Run σ) :
    (naming (NodeScope.express ⟨node, inputs, output, run.pass.options⟩)).outcome run = (.ok e, run) := by
  rw [outcome_naming, NodeScope.express_relay passes, NodeScope.outcome_input given]
  rfl

end Resolving

/-- Two runs that differ in emissions and in the state around the pass only. -/
structure Run.Quiet (run later : Run σ) : Prop where
  options : later.pass.options = run.pass.options
  memo : later.pass.memo = run.pass.memo
  states : later.pass.states = run.pass.states
  names : later.pass.names = run.pass.names
  stack : later.stack = run.stack

theorem Run.Quiet.refl (run : Run σ) : run.Quiet run := ⟨rfl, rfl, rfl, rfl, rfl⟩

theorem Run.Quiet.trans {first second third : Run σ} (left : first.Quiet second) (right : second.Quiet third) :
    first.Quiet third :=
  ⟨right.options.trans left.options, right.memo.trans left.memo, right.states.trans left.states,
    right.names.trans left.names, right.stack.trans left.stack⟩

theorem Run.Quiet.state {run later : Run σ} (quiet : run.Quiet later) : later.pass.state = run.pass.state := by
  unfold Pass.state
  rw [quiet.states]

theorem Resolving.outside_quiet (action : Step σ α) (run : Run σ) :
    run.Quiet ((outside action).outcome run).2 := by
  rw [outcome_outside]
  exact ⟨rfl, rfl, rfl, rfl, rfl⟩

theorem Step.bind_invariant {β : Type} {relation : σ → σ → Prop} {step : Step σ α} {next : α → Step σ β} {state : σ}
    (trans : ∀ {a b c}, relation a b → relation b c → relation a c) (first : relation state (step.outcome state).2)
    (second : ∀ a middle, relation middle ((next a).outcome middle).2) :
    relation state ((step >>= next).outcome state).2 := by
  rw [outcome_bind]
  rcases h : step.outcome state with ⟨cause | a, middle⟩
  · rw [h] at first; exact first
  · rw [h] at first; exact trans first (second a middle)

namespace Host

theorem announce_quiet (host : Host σ) (node : String) (e : Expression) (run : Run σ) :
    run.Quiet ((host.announce node e).outcome run).2 := by
  have render (source : Except Error String) (run : Run σ) :
      run.Quiet ((Step.ofExcept id source : Resolving σ String).outcome run).2 := by
    cases source <;> exact .refl run
  unfold announce
  refine Step.bind_invariant Run.Quiet.trans ?_ fun current middle => ?_
  · exact .refl run
  refine Step.bind_invariant Run.Quiet.trans (render _ middle) fun source middle => ?_
  refine Step.bind_invariant Run.Quiet.trans (Resolving.outside_quiet _ middle) fun _ middle => ?_
  refine Step.bind_invariant Run.Quiet.trans ?_ fun _ middle => Resolving.outside_quiet _ middle
  exact ⟨rfl, rfl, rfl, rfl, rfl⟩

theorem announceFrom_quiet (host : Host σ) (node : Node) (e : Expression) (run : Run σ) :
    run.Quiet ((host.announceFrom node e).outcome run).2 := by
  rw [announceFrom]
  split
  · exact host.announce_quiet node.name e run
  · exact .refl run

theorem announceFrom_shown {host : Host σ} {node : Node} {e : Expression} {run : Run σ}
    (ok : ((host.announceFrom node e).outcome run).1 = .ok ()) (print : node.kind = .print) :
    ∃ source, Source.render host.limits.digits run.pass.options e = .ok source := by
  rw [announceFrom, if_pos print, announce, Step.outcome_bind_ok (Step.outcome_get run)] at ok
  cases rendered : Source.render host.limits.digits run.pass.options e with
  | ok source => exact ⟨source, rfl⟩
  | error cause =>
    rw [rendered, Step.outcome_bind_error (Step.outcome_ofExcept_error ..)] at ok
    cases ok

theorem apply_cases (host : Host σ) (node : Node) (inputs : Inputs) (output : Option String) (run : Run σ) :
    (∃ cause, ((host.apply node inputs output).outcome run).1 = .error cause ∧
        run.Quiet ((host.apply node inputs output).outcome run).2) ∨
      ∃ result, NodeScope.Derives ⟨node, inputs, output, run.pass.options⟩ run.pass.names result ∧
        ((host.apply node inputs output).outcome run).1 = .ok result.1 ∧
        (run.named result.2).Quiet ((host.apply node inputs output).outcome run).2 ∧
        (node.kind = .print → ∃ source, Source.render host.limits.digits run.pass.options result.1 = .ok source) := by
  rw [apply, Step.outcome_bind_ok (Step.outcome_get run)]
  have naming := Resolving.outcome_naming (NodeScope.express ⟨node, inputs, output, run.pass.options⟩) run
  rcases NodeScope.express_cases ⟨node, inputs, output, run.pass.options⟩ run.pass.names with
    ⟨cause, failed⟩ | ⟨result, expressed, derived⟩
  · left
    rw [failed] at naming
    rw [Step.outcome_bind_error naming]
    exact ⟨cause, rfl, ⟨rfl, rfl, rfl, rfl, rfl⟩⟩
  · rw [expressed] at naming
    rw [Step.outcome_bind_ok naming]
    have quiet := host.announceFrom_quiet node result.1 (run.named result.2)
    rcases h : (host.announceFrom node result.1).outcome (run.named result.2) with ⟨cause | _, after⟩
    · -- Only a Print node announces, and its rule issues no name.
      left
      have print : node.kind = .print := by
        rcases Decidable.em (node.kind = .print) with print | other
        · exact print
        · rw [announceFrom, if_neg other] at h
          cases h
      have same : result.2 = run.pass.names := by
        cases derived <;> simp_all [NodeKind.mesh?, NodeKind.relay?]
      rw [h, same] at quiet
      rw [Step.outcome_bind_error h]
      exact ⟨cause, rfl, quiet⟩
    · right
      have shown (print : node.kind = .print) :=
        announceFrom_shown (by rw [h] : ((host.announceFrom node result.1).outcome (run.named result.2)).1 = .ok ()) print
      rw [h] at quiet
      rw [Step.outcome_bind_ok h]
      exact ⟨result, derived, rfl, quiet, shown⟩

end Host

structure Record where
  memo : List (OutputKey × Expression)
  names : NameTable

def Pass.record (pass : Pass) : Record := ⟨pass.memo, pass.names⟩

theorem Pass.mem_of_result? {pass : Pass} {key : OutputKey} {e : Expression} (known : pass.result? key = some e) :
    (key, e) ∈ pass.memo := by
  obtain ⟨front, back, same, _⟩ := List.lookup_eq_some_iff.mp known
  simp [same]

def Pass.Coherent (pass : Pass) : Prop :=
  ∀ key, pass.state key = .resolved ↔ key ∈ pass.memo.map Prod.fst

theorem Pass.coherent_fresh (options : Options) : (Pass.fresh options).Coherent := by
  intro key
  simp [fresh, state]

theorem Pass.Coherent.result? {pass : Pass} (coherent : pass.Coherent) {key : OutputKey}
    (resolved : pass.state key = .resolved) : ∃ e, pass.result? key = some e := by
  obtain ⟨entry, member, same⟩ := List.mem_map.mp ((coherent key).mp resolved)
  exact Option.isSome_iff_exists.mp (List.lookup_isSome_iff.mpr ⟨entry, member, by simp [same]⟩)

inductive Graph.Feed (graph : Graph) (memo : List (OutputKey × Expression)) (node : Node) (socket : InputSocket) :
    Expression → Prop
  | linked {link : Link} {source : Node} {e : Expression}
      (joined : graph.inputLink? node.id socket.name = some link) (found : graph.find? link.source = some source)
      (declared : source.kind.template.hasOutput link.output = true)
      (known : (⟨source.id, some link.output⟩, e) ∈ memo) : graph.Feed memo node socket e
  | zero (dangling : ∀ link, graph.inputLink? node.id socket.name = some link → graph.find? link.source = none)
      (optional : graph.inputLink? node.id socket.name = none → socket.required = false) :
      graph.Feed memo node socket (.zero socket.shape)

theorem Graph.Feed.mono {graph : Graph} {memo later : List (OutputKey × Expression)} {node : Node}
    {socket : InputSocket} {e : Expression} (feed : graph.Feed memo node socket e) (wider : memo ⊆ later) :
    graph.Feed later node socket e := by
  cases feed with
  | linked joined found declared known => exact .linked joined found declared (wider known)
  | zero dangling optional => exact .zero dangling optional

namespace Scene

def Fed (scene : Scene σ) (memo : List (OutputKey × Expression)) (node : Node) : List InputSocket → Inputs → Prop :=
  List.Forall₂ (fun socket entry => entry.1 = socket.name ∧ scene.graph.Feed memo node socket entry.2)

theorem Fed.of_mem {scene : Scene σ} {memo : List (OutputKey × Expression)} {node : Node}
    {sockets : List InputSocket} {inputs : Inputs} (fed : scene.Fed memo node sockets inputs)
    {entry : String × Expression} (member : entry ∈ inputs) :
    ∃ socket ∈ sockets, entry.1 = socket.name ∧ scene.graph.Feed memo node socket entry.2 := by
  induction fed with
  | nil => simp at member
  | cons head _ ih =>
    rcases List.mem_cons.mp member with rfl | member
    · exact ⟨_, List.mem_cons_self, head⟩
    · obtain ⟨socket, inside, feed⟩ := ih member
      exact ⟨socket, List.mem_cons_of_mem _ inside, feed⟩

/-- One output is settled: its node's rule derives the result from inputs that are settled already, and the result has a
    text if the node announces it. -/
inductive Settles (scene : Scene σ) (allowed : Node → Prop) (options : Options) : Record → Record → Prop
  | output {record : Record} {node : Node} {asked socket : Option String} {inputs : Inputs}
      {result : Expression × NameTable} (admitted : allowed node) (declared : node.output asked = .ok socket)
      (fed : scene.Fed record.memo node (scene.catalog node.kind).inputs inputs)
      (derived : NodeScope.Derives ⟨node, inputs, socket, options⟩ record.names result)
      (shown : node.kind = .print → ∃ source, Source.render scene.host.limits.digits options result.1 = .ok source) :
      scene.Settles allowed options record ⟨(⟨node.id, socket⟩, result.1) :: record.memo, result.2⟩

theorem Settles.imp {scene : Scene σ} {allowed other : Node → Prop} {options : Options} {record later : Record}
    (settles : scene.Settles allowed options record later) (weaker : ∀ node, allowed node → other node) :
    scene.Settles other options record later := by
  cases settles with
  | output admitted declared fed derived shown => exact .output (weaker _ admitted) declared fed derived shown

def Progress (scene : Scene σ) (allowed : Node → Prop) (options : Options) : Record → Record → Prop :=
  ReflTransGen (scene.Settles allowed options)

theorem Progress.memo {scene : Scene σ} {allowed : Node → Prop} {options : Options} {record later : Record}
    (progress : scene.Progress allowed options record later) : record.memo ⊆ later.memo := by
  induction progress with
  | refl => exact List.Subset.refl _
  | tail _ settles ih =>
    cases settles
    exact fun entry member => List.mem_cons_of_mem _ (ih member)

theorem Progress.preserves {scene : Scene σ} {allowed : Node → Prop} {options : Options} (invariant : Record → Prop)
    (step : ∀ {record later}, scene.Settles allowed options record later → invariant record → invariant later)
    {record later : Record} (progress : scene.Progress allowed options record later) (start : invariant record) :
    invariant later := by
  induction progress with
  | refl => exact start
  | tail _ settles ih => exact step settles ih

/-- From one run to a later one outputs were settled. Nothing is marked as in progress that was not before, unless there
    was an exit. -/
structure Advances (scene : Scene σ) (allowed : Node → Prop) (exited : Bool) (run later : Run σ) : Prop where
  stack : later.stack = run.stack
  opened : ∀ key, run.pass.state key = .inProgress → later.pass.state key = .inProgress
  closed : exited = false → ∀ key, later.pass.state key = .inProgress → run.pass.state key = .inProgress
  coherent : run.pass.Coherent → later.pass.Coherent
  options : later.pass.options = run.pass.options
  progress : scene.Progress allowed run.pass.options run.pass.record later.pass.record

variable {scene : Scene σ} {allowed : Node → Prop} {exited : Bool}

theorem Advances.refl (run : Run σ) : scene.Advances allowed exited run run :=
  ⟨rfl, fun _ => id, fun _ _ => id, id, rfl, .refl⟩

theorem Advances.trans {first second third : Run σ} (left : scene.Advances allowed false first second)
    (right : scene.Advances allowed exited second third) : scene.Advances allowed exited first third :=
  ⟨right.stack.trans left.stack, fun key => right.opened key ∘ left.opened key,
    fun stayed key => left.closed rfl key ∘ right.closed stayed key, right.coherent ∘ left.coherent,
    right.options.trans left.options, left.progress.trans (left.options ▸ right.progress)⟩

theorem advances_of_quiet {run later : Run σ} (quiet : run.Quiet later) : scene.Advances allowed exited run later := by
  refine ⟨quiet.stack, fun key => by rw [quiet.state]; exact id, fun _ key => by rw [quiet.state]; exact id, ?_,
    quiet.options, ?_⟩
  · unfold Pass.Coherent
    rw [quiet.state, quiet.memo]
    exact id
  · rw [Pass.record, Pass.record, quiet.memo, quiet.names]
    exact .refl

structure Resolves (scene : Scene σ) (allowed : Node → Prop) (node : Node) (asked : Option String) (run : Run σ)
    (result : Except Error Expression × Run σ) : Prop where
  advances : scene.Advances allowed (Error.exited result.1) run result.2
  kept : ∀ e, result.1 = .ok e →
    ∃ socket, node.output asked = .ok socket ∧ (⟨node.id, socket⟩, e) ∈ result.2.pass.memo

theorem output_some {node : Node} {output : String} {socket : Option String}
    (declared : node.output (some output) = .ok socket) :
    socket = some output ∧ node.kind.template.hasOutput output = true := by
  simp only [Node.output] at declared
  split at declared
  · rename_i holds
    cases declared
    exact ⟨rfl, holds⟩
  · cases declared

section Cases

variable {recur : Node → Option String → Resolving σ Expression} {node : Node} {asked socket : Option String}
  {run : Run σ}

theorem step_undeclared {cause : Failure} (undeclared : node.output asked = .error cause) :
    (scene.step recur node asked).outcome run = (.error (.failure cause), run) := by
  rw [step, undeclared]
  rfl

theorem step_hit {e : Expression} (declared : node.output asked = .ok socket)
    (resolved : run.pass.state ⟨node.id, socket⟩ = .resolved)
    (known : run.pass.result? ⟨node.id, socket⟩ = some e) :
    ∃ world, (scene.step recur node asked).outcome run = (.ok e, { run with world := world }) := by
  rw [step, declared, Step.outcome_bind_ok (Step.outcome_ofExcept_ok ..), Step.outcome_bind_ok (Step.outcome_get run)]
  simp only [Frame.key, resolved]
  rw [reuse, note, Step.outcome_bind_ok (Resolving.outcome_outside ..), Step.outcome_bind_ok (Step.outcome_get _)]
  simp only [Frame.key, known]
  exact ⟨_, rfl⟩

theorem step_known {e : Expression} (declared : node.output asked = .ok socket)
    (resolved : run.pass.state ⟨node.id, socket⟩ = .resolved)
    (known : run.pass.result? ⟨node.id, socket⟩ = some e) :
    ∃ later, (scene.step recur node asked).outcome run = (.ok e, later) ∧ run.Quiet later := by
  obtain ⟨world, same⟩ : ∃ world, (scene.step recur node asked).outcome run = (.ok e, { run with world := world }) :=
    step_hit declared resolved known
  exact ⟨_, same, ⟨rfl, rfl, rfl, rfl, rfl⟩⟩

theorem step_unknown (declared : node.output asked = .ok socket)
    (resolved : run.pass.state ⟨node.id, socket⟩ = .resolved) (unknown : run.pass.result? ⟨node.id, socket⟩ = none) :
    ∃ later, (scene.step recur node asked).outcome run = (.error (.unknownLabel (socket.getD "None")), later) ∧
      run.Quiet later := by
  rw [step, declared, Step.outcome_bind_ok (Step.outcome_ofExcept_ok ..), Step.outcome_bind_ok (Step.outcome_get run)]
  simp only [Frame.key, resolved]
  rw [reuse, note, Step.outcome_bind_ok (Resolving.outcome_outside ..), Step.outcome_bind_ok (Step.outcome_get _)]
  simp only [Frame.key, unknown]
  exact ⟨_, rfl, ⟨rfl, rfl, rfl, rfl, rfl⟩⟩

theorem step_active (declared : node.output asked = .ok socket)
    (active : run.pass.state ⟨node.id, socket⟩ = .inProgress) :
    (scene.step recur node asked).outcome run =
      (.error (Frame.met run.stack ⟨node.id, node.name, socket⟩), run) := by
  rw [step, declared, Step.outcome_bind_ok (Step.outcome_ofExcept_ok ..), Step.outcome_bind_ok (Step.outcome_get run)]
  simp only [Frame.key, active]
  rfl

theorem step_visit (declared : node.output asked = .ok socket)
    (unvisited : run.pass.state ⟨node.id, socket⟩ = .unvisited) :
    (scene.step recur node asked).outcome run =
      (((scene.work recur node socket).outcome (run.enter ⟨node.id, node.name, socket⟩)).1,
        ((scene.work recur node socket).outcome (run.enter ⟨node.id, node.name, socket⟩)).2.leave
          ⟨node.id, node.name, socket⟩
          ((scene.work recur node socket).outcome (run.enter ⟨node.id, node.name, socket⟩)).1) := by
  rw [step, declared, Step.outcome_bind_ok (Step.outcome_ofExcept_ok ..), Step.outcome_bind_ok (Step.outcome_get run)]
  simp only [Frame.key, unvisited]
  rw [visit, Step.outcome_bind_ok (Step.outcome_modify ..), Step.outcome_bind_ok (Step.outcome_attempt ..),
    Step.outcome_bind_ok (Step.outcome_modify ..)]
  rcases (scene.work recur node socket).outcome _ with ⟨cause | e, later⟩ <;> rfl

theorem work_failed {cause : Error} {later : Run σ}
    (gather : (scene.inputs recur node).outcome run = (.error cause, later)) :
    (scene.work recur node socket).outcome run = (.error cause, later) := by
  rw [work, Step.outcome_bind_error gather]

theorem work_gathered {inputs : Inputs} {later : Run σ}
    (gather : (scene.inputs recur node).outcome run = (.ok inputs, later)) :
    ∃ noted, later.Quiet noted ∧
      (scene.work recur node socket).outcome run = (scene.host.apply node inputs socket).outcome noted := by
  rw [work, Step.outcome_bind_ok gather, note, Step.outcome_bind_ok (Resolving.outcome_outside ..)]
  refine ⟨_, ?_, rfl⟩
  exact ⟨rfl, rfl, rfl, rfl, rfl⟩

end Cases

theorem enter_coherent {run : Run σ} {frame : Frame} (unvisited : run.pass.state frame.key = .unvisited)
    (coherent : run.pass.Coherent) : (run.enter frame).pass.Coherent := by
  intro key
  have before := coherent key
  by_cases same : key = frame.key
  · rw [same, unvisited] at before
    simpa [Run.enter, same] using before
  · simpa [Run.enter, same] using before

theorem leave_advances {run middle after : Run σ} {frame : Frame} {cause : Error}
    (unvisited : run.pass.state frame.key = .unvisited)
    (advances : scene.Advances allowed cause.isExit (run.enter frame) middle) (quiet : middle.Quiet after) :
    scene.Advances allowed cause.isExit run (after.leave frame (.error cause)) := by
  have entered : middle.pass.state frame.key = .inProgress := advances.opened _ (by simp [Run.enter])
  refine ⟨?_, ?_, ?_, ?_, ?_, ?_⟩
  · simp [Run.leave, quiet.stack, advances.stack, Run.enter]
  · intro key active
    have other : key ≠ frame.key := by
      intro same
      rw [same, unvisited] at active
      cases active
    have inside := advances.opened key (by simpa [Run.enter, other] using active)
    simpa [Run.leave, other, quiet.state] using inside
  · intro stayed key active
    have other : key ≠ frame.key := by
      intro same
      simp [Run.leave, same, stayed] at active
    have inside := advances.closed stayed key (by simpa [Run.leave, other, quiet.state] using active)
    simpa [Run.enter, other] using inside
  · intro coherent key
    have settled := advances.coherent (enter_coherent unvisited coherent) key
    have state : (after.leave frame (.error cause)).pass.state key = .resolved ↔ middle.pass.state key = .resolved := by
      by_cases same : key = frame.key
      · cases exit : cause.isExit <;> simp [Run.leave, same, exit, quiet.state, entered]
      · simp [Run.leave, same, quiet.state]
    rw [state, settled]
    simp [Run.leave, quiet.memo]
  · simp [Run.leave, quiet.options, advances.options, Run.enter, Pass.begin, Pass.mark]
  · have last : (after.leave frame (.error cause)).pass.record = middle.pass.record := by
      simp [Pass.record, Run.leave, quiet.memo, quiet.names]
    rw [last]
    exact advances.progress

theorem leave_settled {run middle after : Run σ} {frame : Frame} {e : Expression} {names : NameTable}
    (unvisited : run.pass.state frame.key = .unvisited)
    (advances : scene.Advances allowed false (run.enter frame) middle) (quiet : (middle.named names).Quiet after)
    (settles : scene.Settles allowed run.pass.options middle.pass.record ⟨(frame.key, e) :: middle.pass.memo, names⟩) :
    scene.Advances allowed false run (after.leave frame (.ok e)) := by
  have state : after.pass.state = middle.pass.state := quiet.state
  refine ⟨?_, ?_, ?_, ?_, ?_, ?_⟩
  · simp [Run.leave, quiet.stack, Run.named, advances.stack, Run.enter]
  · intro key active
    have other : key ≠ frame.key := by
      intro same
      rw [same, unvisited] at active
      cases active
    have inside := advances.opened key (by simpa [Run.enter, other] using active)
    simpa [Run.leave, other, state] using inside
  · intro _ key active
    have other : key ≠ frame.key := by
      intro same
      simp [Run.leave, same] at active
    have inside := advances.closed rfl key (by simpa [Run.leave, other, state] using active)
    simpa [Run.enter, other] using inside
  · intro coherent key
    have settled := advances.coherent (enter_coherent unvisited coherent) key
    have memo : after.pass.memo = middle.pass.memo := quiet.memo
    by_cases same : key = frame.key
    · simp [Run.leave, same]
    · simpa [Run.leave, same, state, memo] using settled
  · exact quiet.options.trans advances.options
  · have last : (after.leave frame (.ok e)).pass.record = ⟨(frame.key, e) :: middle.pass.memo, names⟩ := by
      simp [Pass.record, Run.leave, quiet.names, quiet.memo, Run.named]
    rw [last]
    exact advances.progress.tail settles

section Step

variable {recur : Node → Option String → Resolving σ Expression}
  (resolves : ∀ node, allowed node → ∀ asked run, scene.Resolves allowed node asked run ((recur node asked).outcome run))
  (inGraph : ∀ node ∈ scene.graph.nodes, allowed node)

include resolves inGraph

theorem input_advances (node : Node) (socket : InputSocket) (run : Run σ) :
    scene.Advances allowed (Error.exited ((scene.input recur node socket).outcome run).1) run
        ((scene.input recur node socket).outcome run).2 ∧
      ∀ e, ((scene.input recur node socket).outcome run).1 = .ok e →
        scene.graph.Feed ((scene.input recur node socket).outcome run).2.pass.memo node socket e := by
  simp only [input]
  split
  · rename_i link linked
    split
    · rename_i source found
      have inner := resolves source (inGraph source (List.mem_of_find?_eq_some found)) (some link.output) run
      refine ⟨inner.advances, ?_⟩
      intro e ok
      obtain ⟨output, declared, known⟩ := inner.kept e ok
      obtain ⟨rfl, holds⟩ := output_some declared
      exact .linked linked found holds known
    · rename_i absent
      refine ⟨.refl run, ?_⟩
      rintro e ⟨rfl⟩
      refine .zero ?_ (by simp [linked])
      intro other same
      rw [linked] at same
      cases same
      exact absent
  · rename_i unlinked
    split
    · exact ⟨.refl run, fun e ok => by cases ok⟩
    · rename_i optional
      refine ⟨.refl run, ?_⟩
      rintro e ⟨rfl⟩
      exact .zero (by simp [unlinked]) (fun _ => by simpa using optional)

theorem inputs_advances (node : Node) (sockets : List InputSocket) (run : Run σ) :
    let gather := sockets.mapM (fun socket => do return (socket.name, ← scene.input recur node socket))
    scene.Advances allowed (Error.exited (Step.outcome gather run).1) run (Step.outcome gather run).2 ∧
      ∀ inputs, (Step.outcome gather run).1 = .ok inputs →
        scene.Fed (Step.outcome gather run).2.pass.memo node sockets inputs := by
  induction sockets generalizing run with
  | nil =>
    refine ⟨.refl run, ?_⟩
    rintro inputs ⟨rfl⟩
    exact .nil
  | cons socket sockets ih =>
    have head := scene.input_advances resolves inGraph node socket run
    simp only [List.mapM_cons, bind_assoc, pure_bind]
    rw [Step.outcome_bind]
    rcases first : (scene.input recur node socket).outcome run with ⟨cause | e, middle⟩
    · rw [first] at head
      exact ⟨head.1, fun inputs ok => by cases ok⟩
    · rw [first] at head
      have rest := ih middle
      simp only at rest ⊢
      rw [Step.outcome_bind]
      rcases second : Step.outcome (sockets.mapM _) middle with ⟨cause | inputs, later⟩
      · rw [second] at rest
        exact ⟨head.1.trans rest.1, fun inputs ok => by cases ok⟩
      · rw [second] at rest
        refine ⟨head.1.trans rest.1, ?_⟩
        rintro all ⟨rfl⟩
        exact .cons ⟨rfl, (head.2 e rfl).mono rest.1.progress.memo⟩ (rest.2 inputs rfl)

theorem work_advances (node : Node) (socket : Option String) (run : Run σ) :
    ∃ middle, scene.Advances allowed (Error.exited ((scene.work recur node socket).outcome run).1) run middle ∧
      ((∃ cause, ((scene.work recur node socket).outcome run).1 = .error cause ∧
          middle.Quiet ((scene.work recur node socket).outcome run).2) ∨
        ∃ inputs result, scene.Fed middle.pass.memo node (scene.catalog node.kind).inputs inputs ∧
          NodeScope.Derives ⟨node, inputs, socket, middle.pass.options⟩ middle.pass.names result ∧
          ((scene.work recur node socket).outcome run).1 = .ok result.1 ∧
          (middle.named result.2).Quiet ((scene.work recur node socket).outcome run).2 ∧
          (node.kind = .print →
            ∃ source, Source.render scene.host.limits.digits middle.pass.options result.1 = .ok source)) := by
  have gathered := scene.inputs_advances resolves inGraph node (scene.catalog node.kind).inputs run
  rcases gather : (scene.inputs recur node).outcome run with ⟨cause | inputs, later⟩
  · simp only [inputs] at gather
    simp only [gather] at gathered
    rw [work_failed gather]
    exact ⟨later, gathered.1, .inl ⟨cause, rfl, .refl later⟩⟩
  · obtain ⟨noted, quiet, worked⟩ : ∃ noted, later.Quiet noted ∧ (scene.work recur node socket).outcome run =
        (scene.host.apply node inputs socket).outcome noted := work_gathered gather
    simp only [Scene.inputs] at gather
    simp only [gather] at gathered
    rw [worked]
    refine ⟨noted, gathered.1.trans (advances_of_quiet quiet), ?_⟩
    rcases scene.host.apply_cases node inputs socket noted with
      ⟨cause, failed, still⟩ | ⟨result, derived, ok, still, shown⟩
    · exact .inl ⟨cause, failed, still⟩
    · refine .inr ⟨inputs, result, ?_, derived, ok, still, shown⟩
      rw [quiet.memo]
      exact gathered.2 inputs rfl

theorem step_resolves {node : Node} (admitted : allowed node) (asked : Option String) (run : Run σ) :
    scene.Resolves allowed node asked run ((scene.step recur node asked).outcome run) := by
  cases declared : node.output asked with
  | error cause =>
    rw [step_undeclared declared]
    exact ⟨.refl run, fun e ok => by cases ok⟩
  | ok socket =>
    cases visited : run.pass.state ⟨node.id, socket⟩ with
    | resolved =>
      cases known : run.pass.result? ⟨node.id, socket⟩ with
      | some e =>
        obtain ⟨later, same, quiet⟩ : ∃ later, (scene.step recur node asked).outcome run = (.ok e, later) ∧
            run.Quiet later := step_known declared visited known
        rw [same]
        refine ⟨advances_of_quiet quiet, ?_⟩
        rintro _ ⟨rfl⟩
        refine ⟨socket, declared, ?_⟩
        rw [quiet.memo]
        exact Pass.mem_of_result? known
      | none =>
        obtain ⟨later, same, quiet⟩ : ∃ later, (scene.step recur node asked).outcome run =
            (.error (.unknownLabel (socket.getD "None")), later) ∧ run.Quiet later :=
          step_unknown declared visited known
        rw [same]
        exact ⟨advances_of_quiet quiet, fun e ok => by cases ok⟩
    | inProgress =>
      rw [step_active declared visited]
      exact ⟨.refl run, fun e ok => by cases ok⟩
    | unvisited =>
      rw [step_visit declared visited]
      generalize framed : (⟨node.id, node.name, socket⟩ : Frame) = frame
      have key : frame.key = ⟨node.id, socket⟩ := by rw [← framed]; rfl
      rw [← key] at visited
      obtain ⟨middle, advances, ⟨cause, failed, quiet⟩ | ⟨inputs, result, fed, derived, ok, quiet, shown⟩⟩ :=
        work_advances resolves inGraph node socket (run.enter frame)
      -- A failed output is left without a result; a settled one is kept.
      all_goals
        rcases work : (scene.work recur node socket).outcome (run.enter frame) with ⟨outcome, after⟩
        rw [work] at quiet advances
      · rw [work] at failed
        cases failed
        exact ⟨leave_advances visited advances quiet, fun e ok => by cases ok⟩
      · rw [work] at ok
        cases ok
        have settles : scene.Settles allowed run.pass.options middle.pass.record
            ⟨(frame.key, result.1) :: middle.pass.memo, result.2⟩ := by
          rw [advances.options] at derived shown
          rw [key]
          exact .output admitted declared fed derived shown
        refine ⟨leave_settled visited advances quiet settles, ?_⟩
        rintro _ ⟨rfl⟩
        refine ⟨socket, declared, ?_⟩
        rw [← key]
        exact List.mem_cons_self

end Step

theorem resolve_resolves (scene : Scene σ) {allowed : Node → Prop} (inGraph : ∀ node ∈ scene.graph.nodes, allowed node)
    (depth : Nat) {node : Node} (admitted : allowed node) (asked : Option String) (run : Run σ) :
    scene.Resolves allowed node asked run ((scene.resolve depth node asked).outcome run) := by
  induction depth generalizing node asked run with
  | zero => exact ⟨.refl run, fun e ok => by cases ok⟩
  | succ depth ih => exact step_resolves (fun node admitted asked run => ih admitted asked run) inGraph admitted asked run

end Scene

end ShaderGraph
