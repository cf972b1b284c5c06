import Mathlib.Data.List.Dedup
import ShaderGraph.Proofs.Graph.UniqueNames
import ShaderGraph.Proofs.Graph.Upstream
import ShaderGraph.Proofs.Raising

namespace ShaderGraph

open Relation

variable {σ : Type}

def Graph.origins (graph : Graph) : List OutputKey :=
  (graph.links.map fun link => ⟨link.source, some link.output⟩).dedup

abbrev Output := Node × Option String

def Output.frame (output : Output) : Frame := ⟨output.1.id, output.1.name, output.2⟩

def Control.opened : Control → List Output
  | .gather job _ | .close job _ => [(job.node, job.socket)]
  | .ask _ _ | .answer _ => []

def Config.opened (config : Config σ) : List Output :=
  config.control.opened ++ config.waiting.map fun waiting => (waiting.job.node, waiting.job.socket)

def Output.Proper (admitted : Node → Prop) (output : Output) : Prop :=
  admitted output.1 ∧ ∃ asked, output.1.output asked = .ok output.2

theorem Node.output_print {node : Node} (print : node.kind = .print) {asked socket : Option String}
    (declared : node.output asked = .ok socket) : socket = none := by
  cases asked with
  | none =>
    simp only [Node.output, print, Except.ok.injEq] at declared
    exact declared.symm
  | some name => simp [Node.output, print, NodeKind.template, Template.hasOutput, NodeKind.outputs] at declared

/-- What can become of the marks that exits left, of the outputs under resolution and of the run. -/
inductive Change (graph : Graph) (admitted : Node → Prop) :
    List OutputKey → List Output → Run σ → List OutputKey → List Output → Run σ → Prop
  | still {left : List OutputKey} {opened : List Output} {run later : Run σ} (stack : later.stack = run.stack)
      (states : later.pass.states = run.pass.states) (memo : later.pass.memo = run.pass.memo) :
      Change graph admitted left opened run left opened later
  | enter {left : List OutputKey} {opened : List Output} {run : Run σ} (output : Output) (proper : output.Proper admitted)
      (unvisited : run.pass.state output.frame.key = .unvisited)
      (origin : opened ≠ [] → output.frame.key ∈ graph.origins) :
      Change graph admitted left opened run left (output :: opened) (run.enter output.frame)
  | leave {left : List OutputKey} {opened : List Output} {run : Run σ} (output : Output)
      {outcome : Except Error Expression} (stayed : Error.exited outcome = false) :
      Change graph admitted left (output :: opened) run left opened (run.leave output.frame outcome)
  | exit {left : List OutputKey} {opened : List Output} {run : Run σ} (output : Output) {cause : Error}
      (exit : cause.isExit = true) :
      Change graph admitted left (output :: opened) run (output.frame.key :: left) opened
        (run.leave output.frame (.error cause))

/-- How outputs under resolution stand in the run: they are those on the stack, and they are marked as such, beside the
    marks that exits left. All but the first are where links start. -/
structure Orderly (graph : Graph) (admitted : Node → Prop) (left : List OutputKey) (opened : List Output) (run : Run σ) :
    Prop where
  stack : run.stack = opened.map Output.frame
  inProgress : ∀ key, run.pass.state key = .inProgress ↔ key ∈ run.stack.map Frame.key ∨ key ∈ left
  distinct : (run.stack.map Frame.key).Nodup
  apart : ∀ key ∈ left, key ∉ run.stack.map Frame.key
  coherent : run.pass.Coherent
  once : (run.pass.memo.map Prod.fst).Nodup
  linked : ∀ key ∈ (run.stack.map Frame.key).dropLast, key ∈ graph.origins
  proper : ∀ output ∈ opened, output.Proper admitted

namespace Orderly

variable {graph : Graph} {admitted : Node → Prop} {left : List OutputKey} {opened : List Output} {run : Run σ}

theorem fresh (options : Options) (world : σ) :
    Orderly graph admitted [] [] (⟨.fresh options, [], world⟩ : Run σ) := by
  constructor
  · rfl
  · simp [Pass.fresh, Pass.state]
  · simp
  · simp
  · exact Pass.coherent_fresh options
  · simp [Pass.fresh]
  · simp
  · simp

theorem still (orderly : Orderly graph admitted left opened run) {later : Run σ} (stack : later.stack = run.stack)
    (states : later.pass.states = run.pass.states) (memo : later.pass.memo = run.pass.memo) :
    Orderly graph admitted left opened later := by
  have state : later.pass.state = run.pass.state := by
    unfold Pass.state
    rw [states]
  constructor
  · rw [stack]
    exact orderly.stack
  · rw [stack, state]
    exact orderly.inProgress
  · rw [stack]
    exact orderly.distinct
  · rw [stack]
    exact orderly.apart
  · unfold Pass.Coherent
    rw [state, memo]
    exact orderly.coherent
  · rw [memo]
    exact orderly.once
  · rw [stack]
    exact orderly.linked
  · exact orderly.proper

theorem enter (orderly : Orderly graph admitted left opened run) (output : Output) (proper : output.Proper admitted)
    (unvisited : run.pass.state output.frame.key = .unvisited) (origin : opened ≠ [] → output.frame.key ∈ graph.origins) :
    Orderly graph admitted left (output :: opened) (run.enter output.frame) := by
  have new : output.frame.key ∉ run.stack.map Frame.key ∧ output.frame.key ∉ left := by
    have before := orderly.inProgress output.frame.key
    rw [unvisited] at before
    simpa using before
  constructor
  · simp [Run.enter, orderly.stack]
  · intro key
    have before := orderly.inProgress key
    by_cases same : key = output.frame.key
    · simp [Run.enter, same]
    · simpa [Run.enter, same] using before
  · exact List.nodup_cons.mpr ⟨new.1, orderly.distinct⟩
  · intro key member
    refine List.not_mem_cons_of_ne_of_not_mem ?_ (orderly.apart key member)
    rintro rfl
    exact new.2 member
  · exact Scene.enter_coherent unvisited orderly.coherent
  · exact orderly.once
  · intro key member
    cases opened with
    | nil => simp [Run.enter, orderly.stack] at member
    | cons first rest =>
      have split : ((run.enter output.frame).stack.map Frame.key).dropLast =
          output.frame.key :: (run.stack.map Frame.key).dropLast := by
        simp [Run.enter, orderly.stack]
      rw [split] at member
      rcases List.mem_cons.mp member with rfl | member
      · exact origin (by simp)
      · exact orderly.linked key member
  · intro other member
    rcases List.mem_cons.mp member with rfl | member
    · exact proper
    · exact orderly.proper other member

section Leave

variable {output : Output} (orderly : Orderly graph admitted left (output :: opened) run)

include orderly

theorem keys : run.stack.map Frame.key = output.frame.key :: run.stack.tail.map Frame.key := by
  rw [orderly.stack]
  rfl

theorem current : run.pass.state output.frame.key = .inProgress := by
  rw [orderly.inProgress, orderly.keys]
  exact .inl List.mem_cons_self

theorem unknown : output.frame.key ∉ run.pass.memo.map Prod.fst := by
  rw [← orderly.coherent, orderly.current]
  simp

theorem linked_tail : ∀ key ∈ (run.stack.tail.map Frame.key).dropLast, key ∈ graph.origins := by
  intro key member
  apply orderly.linked
  rw [orderly.keys]
  cases rest : run.stack.tail.map Frame.key with
  | nil => simp [rest] at member
  | cons first others =>
    rw [List.dropLast_cons_cons]
    exact List.mem_cons_of_mem _ (rest ▸ member)

theorem leave {outcome : Except Error Expression} (stayed : Error.exited outcome = false) :
    Orderly graph admitted left opened (run.leave output.frame outcome) := by
  obtain ⟨new, distinct⟩ := List.nodup_cons.mp (orderly.keys ▸ orderly.distinct)
  have unknown := orderly.unknown
  have old : output.frame.key ∉ left := by
    intro member
    exact orderly.apart _ member (orderly.keys ▸ List.mem_cons_self)
  have failed {cause : Error} (same : outcome = .error cause) : cause.isExit = false := by
    rw [same] at stayed
    exact stayed
  constructor
  · simp [Run.leave, orderly.stack]
  · intro key
    have before := orderly.inProgress key
    rw [orderly.keys, List.mem_cons] at before
    show (run.pass.finish output.frame.key outcome).state key = .inProgress ↔ key ∈ run.stack.tail.map Frame.key ∨ key ∈ left
    by_cases same : key = output.frame.key
    · rw [same]
      cases outcome with
      | ok e => simpa [old] using new
      | error cause => simpa [old, failed rfl] using new
    · cases outcome <;> simpa [same] using before
  · exact distinct
  · intro key member outside
    exact orderly.apart key member (orderly.keys ▸ List.mem_cons_of_mem _ outside)
  · intro key
    have before := orderly.coherent key
    by_cases same : key = output.frame.key
    · cases outcome with
      | ok e => simp [Run.leave, same]
      | error cause => simp [Run.leave, same, unknown, failed rfl]
    · cases outcome <;> simpa [Run.leave, same] using before
  · cases outcome with
    | error cause => simpa [Run.leave] using orderly.once
    | ok e => exact List.nodup_cons.mpr ⟨unknown, orderly.once⟩
  · exact orderly.linked_tail
  · intro other member
    exact orderly.proper other (List.mem_cons_of_mem _ member)

theorem exit {cause : Error} (exit : cause.isExit = true) :
    Orderly graph admitted (output.frame.key :: left) opened (run.leave output.frame (.error cause)) := by
  obtain ⟨new, distinct⟩ := List.nodup_cons.mp (orderly.keys ▸ orderly.distinct)
  have pass : (run.leave output.frame (.error cause)).pass = run.pass := run.pass.finish_exit _ exit
  constructor
  · simp [Run.leave, orderly.stack]
  · intro key
    rw [pass, orderly.inProgress, orderly.keys, List.mem_cons, List.mem_cons]
    show (_ ∨ _) ∨ _ ↔ key ∈ run.stack.tail.map Frame.key ∨ _
    tauto
  · exact distinct
  · intro key member outside
    rcases List.mem_cons.mp member with rfl | member
    · exact new outside
    · exact orderly.apart key member (orderly.keys ▸ List.mem_cons_of_mem _ outside)
  · rw [pass]
    exact orderly.coherent
  · rw [pass]
    exact orderly.once
  · exact orderly.linked_tail
  · intro other member
    exact orderly.proper other (List.mem_cons_of_mem _ member)

theorem print_alone (print : output.1.kind = .print) : opened = [] := by
  cases opened with
  | nil => rfl
  | cons first rest =>
    have origin : output.frame.key ∈ graph.origins := by
      apply orderly.linked
      simp [orderly.stack]
    obtain ⟨_, asked, declared⟩ := orderly.proper output List.mem_cons_self
    have socket := Node.output_print print declared
    rw [Graph.origins, List.mem_dedup, List.mem_map] at origin
    obtain ⟨link, _, same⟩ := origin
    have named : some link.output = output.2 := congrArg OutputKey.socket same
    rw [socket] at named
    cases named

end Leave

theorem bounded (orderly : Orderly graph admitted left opened run) : run.stack.length ≤ graph.origins.length + 1 := by
  have distinct := orderly.distinct.sublist (List.dropLast_sublist _)
  have fits := distinct.length_le_of_subset orderly.linked
  rw [List.length_dropLast, List.length_map] at fits
  omega

theorem waypoints (built : graph.Built) (members : ∀ node, admitted node → node ∈ graph.nodes)
    (orderly : Orderly graph admitted left opened run) :
    (run.stack.map Frame.waypoint).Nodup ∧ ∀ node ∈ graph.nodes, ∀ socket,
      (node.name, socket) ∈ run.stack.map Frame.waypoint ↔ ⟨node.id, socket⟩ ∈ run.stack.map Frame.key := by
  have named {first second : Node} (inside : first ∈ graph.nodes) (other : second ∈ graph.nodes)
      (same : first.name = second.name) : first = second := List.inj_on_of_nodup_map built.names inside other same
  have identified {first second : Node} (inside : first ∈ graph.nodes) (other : second ∈ graph.nodes)
      (same : first.id = second.id) : first = second := List.inj_on_of_nodup_map built.sound.distinct inside other same
  have inside (output : Output) (member : output ∈ opened) : output.1 ∈ graph.nodes :=
    members output.1 (orderly.proper output member).1
  constructor
  · have distinct := orderly.distinct
    rw [orderly.stack, List.map_map, List.Nodup, List.pairwise_map] at distinct
    rw [orderly.stack, List.map_map, List.Nodup, List.pairwise_map]
    apply distinct.imp_of_mem
    intro first second member otherMember different same
    obtain ⟨name, socket⟩ := Prod.mk.inj same
    have node := named (inside first member) (inside second otherMember) name
    exact different (congrArg (fun output : Output => output.frame.key) (Prod.ext node socket))
  · intro node member socket
    rw [orderly.stack, List.map_map, List.map_map, List.mem_map, List.mem_map]
    constructor
    · intro found
      obtain ⟨output, opened, same⟩ := found
      obtain ⟨name, same⟩ := Prod.mk.inj same
      have one := named (inside output opened) member name
      exact ⟨output, opened, by simp [Output.frame, Frame.key, one, ← same]⟩
    · intro found
      obtain ⟨output, opened, same⟩ := found
      obtain ⟨id, same⟩ := OutputKey.mk.inj same
      have one := identified (inside output opened) member id
      exact ⟨output, opened, by simp [Output.frame, Frame.waypoint, one, ← same]⟩

end Orderly

namespace Change

variable {graph : Graph} {admitted : Node → Prop} {left remains : List OutputKey} {opened after : List Output}
  {run later : Run σ}

theorem orderly (change : Change graph admitted left opened run remains after later)
    (orderly : Orderly graph admitted left opened run) : Orderly graph admitted remains after later := by
  cases change with
  | still stack states memo => exact orderly.still stack states memo
  | enter output proper unvisited origin => exact orderly.enter output proper unvisited origin
  | leave output stayed => exact orderly.leave stayed
  | exit output exit => exact orderly.exit exit

theorem result? (change : Change graph admitted left opened run remains after later)
    (orderly : Orderly graph admitted left opened run) {key : OutputKey} {e : Expression}
    (known : run.pass.result? key = some e) : later.pass.result? key = some e := by
  have failed (frame : Frame) (cause : Error) : (run.leave frame (.error cause)).pass.result? key = some e := by
    simpa [Run.leave, Pass.result?] using known
  cases change with
  | still stack states memo =>
    unfold Pass.result?
    rw [memo]
    exact known
  | enter => exact known
  | exit => exact failed _ _
  | leave output =>
    rename_i outcome stayed
    cases outcome with
    | error cause => exact failed _ _
    | ok other =>
      have different : key ≠ output.frame.key := by
        rintro rfl
        exact orderly.unknown (List.mem_map_of_mem (Pass.mem_of_result? known))
      show (run.pass.finish output.frame.key (.ok other)).result? key = some e
      rw [Pass.result?_finish, if_neg different]
      exact known

end Change

def Control.outcome? : Control → Option (Except Error Expression)
  | .close _ outcome | .answer outcome => some outcome
  | .ask _ _ | .gather _ _ => none

def Config.abandoned (config : Config σ) : List OutputKey :=
  match config.control with
  | .close job outcome => if Error.exited outcome then [job.frame.key] else []
  | .ask _ _ | .gather _ _ | .answer _ => []

namespace Scene

/-- What is asked for is a node that is admitted, and a link starts there if an output waits for it. An exit on its way
    comes from the receiver of emissions, at a Print node, which no output waits for. -/
structure Poised (scene : Scene σ) (admitted : Node → Prop) (config : Config σ) : Prop where
  asked : ∀ node asked, config.control = .ask node asked → admitted node ∧
    (config.waiting ≠ [] → ∃ link ∈ scene.graph.links, link.source = node.id ∧ asked = some link.output)
  raised : ∀ outcome, config.control.outcome? = some outcome → Error.exited outcome = true →
    ∃ signal, scene.host.Raised (.exit signal)
  print : ∀ job outcome, config.control = .close job outcome → Error.exited outcome = true → job.node.kind = .print
  alone : ∀ outcome, config.control = .answer outcome → Error.exited outcome = true → config.waiting = []

variable {scene : Scene σ} {limit : Option Nat} {admitted : Node → Prop} {left : List OutputKey} {config later : Config σ}
  {waiting : List Waiting} {run : Run σ}

namespace Poised

theorem gathers (job : Job) (inputs : List InputSocket) : scene.Poised admitted ⟨.gather job inputs, waiting, run⟩ :=
  ⟨by simp, by simp [Control.outcome?], by simp, by simp⟩

theorem closes {job : Job} {outcome : Except Error Expression}
    (exits : Error.exited outcome = true → (∃ signal, scene.host.Raised (.exit signal)) ∧ job.node.kind = .print) :
    scene.Poised admitted ⟨.close job outcome, waiting, run⟩ := by
  refine ⟨by simp, ?_, ?_, by simp⟩
  · intro other same exit
    cases same
    exact (exits exit).1
  · intro other outcome same exit
    cases same
    exact (exits exit).2

theorem answers {outcome : Except Error Expression}
    (exits : Error.exited outcome = true → (∃ signal, scene.host.Raised (.exit signal)) ∧ waiting = []) :
    scene.Poised admitted ⟨.answer outcome, waiting, run⟩ := by
  refine ⟨by simp, ?_, by simp, ?_⟩
  · intro other same exit
    cases same
    exact (exits exit).1
  · intro other same exit
    cases same
    exact (exits exit).2

theorem stays {outcome : Except Error Expression} (stayed : Error.exited outcome = false) :
    scene.Poised admitted ⟨.answer outcome, waiting, run⟩ := by
  apply answers
  rw [stayed]
  exact fun exit => nomatch exit

end Poised

theorem met_stays (stack : List Frame) (frame : Frame) : (frame.met stack).isExit = false := by
  unfold Frame.met
  split <;> rfl

theorem reuse_stays (scene : Scene σ) (frame : Frame) (run : Run σ) :
    Error.exited ((scene.reuse frame).outcome run).1 = false := by
  cases ended : ((scene.reuse frame).outcome run).1 with
  | ok e => rfl
  | error cause =>
    obtain ⟨label, rfl⟩ := (scene.reuse_raises frame).outcome run cause ended
    rfl

theorem conclusion_exits (scene : Scene σ) (job : Job) (run : Run σ)
    (exit : Error.exited ((scene.conclusion job).outcome run).1 = true) :
    (∃ signal, scene.host.Raised (.exit signal)) ∧ job.node.kind = .print := by
  cases ended : ((scene.conclusion job).outcome run).1 with
  | ok e =>
    rw [ended] at exit
    cases exit
  | error cause =>
    rw [ended] at exit
    rcases (scene.conclusion_raises job).outcome run cause ended with rule | ⟨print, text | raised⟩
    · exact absurd (rule.isExit.symm.trans exit) (by simp)
    · exact absurd (text.isExit.symm.trans exit) (by simp)
    · cases cause with
      | exit signal => exact ⟨⟨signal, raised⟩, print⟩
      | _ => cases exit

theorem conclusion_still (scene : Scene σ) (job : Job) (run : Run σ) :
    ((scene.conclusion job).outcome run).2.stack = run.stack ∧
      ((scene.conclusion job).outcome run).2.pass.states = run.pass.states ∧
      ((scene.conclusion job).outcome run).2.pass.memo = run.pass.memo := by
  unfold conclusion note
  rw [Step.outcome_bind_ok (Resolving.outcome_outside ..)]
  rcases scene.host.apply_cases job.node job.done job.socket _ with ⟨_, _, quiet⟩ | ⟨_, _, _, quiet, _⟩
  · exact ⟨quiet.stack, quiet.states, quiet.memo⟩
  · exact ⟨quiet.stack, quiet.states, quiet.memo⟩

theorem reuse_quiet (scene : Scene σ) (frame : Frame) (run : Run σ) :
    run.Quiet ((scene.reuse frame).outcome run).2 := by
  unfold reuse
  refine Step.bind_invariant Run.Quiet.trans (Resolving.outside_quiet _ run) fun _ middle => ?_
  rw [Step.outcome_bind_ok (Step.outcome_get middle)]
  cases middle.pass.result? frame.key <;> exact .refl middle

theorem request_changes {node : Node} {asked : Option String}
    (poised : scene.Poised admitted ⟨.ask node asked, waiting, run⟩) :
    Change scene.graph admitted left (⟨.ask node asked, waiting, run⟩ : Config σ).opened run
        left (scene.request limit node asked waiting run).opened (scene.request limit node asked waiting run).run ∧
      scene.Poised admitted (scene.request limit node asked waiting run) := by
  obtain ⟨inside, linked⟩ := poised.asked node asked rfl
  unfold request
  by_cases stop : full limit waiting.length = true
  · rw [if_pos stop]
    exact ⟨.still rfl rfl rfl, .stays rfl⟩
  · rw [if_neg stop]
    cases declared : node.output asked with
    | error cause => exact ⟨.still rfl rfl rfl, .stays rfl⟩
    | ok socket =>
      simp only
      cases visited : run.pass.state (Frame.key ⟨node.id, node.name, socket⟩) with
      | resolved =>
        have quiet := scene.reuse_quiet ⟨node.id, node.name, socket⟩ run
        exact ⟨.still quiet.stack quiet.states quiet.memo, .stays (scene.reuse_stays _ run)⟩
      | inProgress => exact ⟨.still rfl rfl rfl, .stays (met_stays _ _)⟩
      | unvisited =>
        refine ⟨.enter (node, socket) ⟨inside, asked, declared⟩ visited ?_, .gathers _ _⟩
        intro opened
        have waits : waiting ≠ [] := by
          intro none
          exact opened (by simp [Config.opened, Control.opened, none])
        obtain ⟨link, member, source, same⟩ := linked waits
        rw [same] at declared
        obtain ⟨rfl, _⟩ := output_some declared
        unfold Graph.origins
        rw [List.mem_dedup, List.mem_map]
        exact ⟨link, member, by rw [source]; rfl⟩

theorem take_changes (inGraph : ∀ node ∈ scene.graph.nodes, admitted node) (job : Job) (input : InputSocket)
    (inputs : List InputSocket) (waiting : List Waiting) (run : Run σ) :
    Change scene.graph admitted left (⟨.gather job (input :: inputs), waiting, run⟩ : Config σ).opened run
        left (scene.take job input inputs waiting run).opened (scene.take job input inputs waiting run).run ∧
      scene.Poised admitted (scene.take job input inputs waiting run) := by
  unfold take
  cases joined : scene.graph.inputLink? job.node.id input.name with
  | none =>
    by_cases required : input.required = true
    · simp only [required, if_true]
      exact ⟨.still rfl rfl rfl, .closes fun exit => nomatch exit⟩
    · simp only [required]
      exact ⟨.still rfl rfl rfl, .gathers _ _⟩
  | some link =>
    cases found : scene.graph.find? link.source with
    | none =>
      simp only [found]
      exact ⟨.still rfl rfl rfl, .gathers _ _⟩
    | some source =>
      simp only [found]
      refine ⟨.still rfl rfl rfl, ?_, by simp [Control.outcome?], by simp, by simp⟩
      intro node asked asks
      cases asks
      obtain ⟨member, same⟩ := Graph.mem_of_find? found
      exact ⟨inGraph source member, fun _ => ⟨link, (Graph.mem_of_inputLink? joined).1, same.symm, rfl⟩⟩

theorem close_changes (job : Job) (outcome : Except Error Expression) (waiting : List Waiting) (run : Run σ) :
    Change scene.graph admitted left (⟨.close job outcome, waiting, run⟩ : Config σ).opened run
      ((⟨.close job outcome, waiting, run⟩ : Config σ).abandoned ++ left)
      (⟨.answer outcome, waiting, run.leave job.frame outcome⟩ : Config σ).opened (run.leave job.frame outcome) := by
  cases exit : Error.exited outcome with
  | false =>
    have none : (⟨.close job outcome, waiting, run⟩ : Config σ).abandoned = [] := by simp [Config.abandoned, exit]
    rw [none]
    exact .leave (job.node, job.socket) exit
  | true =>
    have one : (⟨.close job outcome, waiting, run⟩ : Config σ).abandoned = [job.frame.key] := by
      simp [Config.abandoned, exit]
    rw [one]
    cases outcome with
    | ok e => cases exit
    | error cause => exact .exit (job.node, job.socket) exit

theorem next_changes (inGraph : ∀ node ∈ scene.graph.nodes, admitted node) (poised : scene.Poised admitted config)
    (orderly : Orderly scene.graph admitted left config.opened config.run) (stepped : scene.next limit config = some later) :
    Change scene.graph admitted left config.opened config.run (config.abandoned ++ left) later.opened later.run ∧
      scene.Poised admitted later := by
  obtain ⟨control, waiting, run⟩ := config
  cases control with
  | ask node asked =>
    cases stepped
    exact request_changes poised
  | gather job inputs =>
    cases inputs with
    | cons input inputs =>
      cases stepped
      exact take_changes inGraph job input inputs waiting run
    | nil =>
      cases stepped
      obtain ⟨stack, states, memo⟩ := scene.conclusion_still job run
      exact ⟨.still stack states memo, .closes (scene.conclusion_exits job run)⟩
  | close job outcome =>
    cases stepped
    refine ⟨close_changes job outcome waiting run, .answers ?_⟩
    intro exit
    refine ⟨poised.raised outcome rfl exit, ?_⟩
    have print := poised.print job outcome rfl exit
    exact List.map_eq_nil_iff.mp (orderly.print_alone print)
  | answer outcome =>
    cases waiting with
    | nil => cases outcome <;> cases stepped
    | cons first waiting =>
      obtain ⟨job, input, inputs⟩ := first
      cases outcome with
      | ok e =>
        cases stepped
        exact ⟨.still rfl rfl rfl, .gathers _ _⟩
      | error cause =>
        cases stepped
        refine ⟨.still rfl rfl rfl, .closes ?_⟩
        intro exit
        cases poised.alone (.error cause) rfl exit

inductive Moves (scene : Scene σ) (limit : Option Nat) (allowed : Node → Prop) : Config σ → Config σ → Prop
  | step {config later : Config σ} (stepped : scene.next limit config = some later) : Moves scene limit allowed config later
  | call (outcome : Except Error Expression) (run : Run σ) (world : σ) {node : Node} (asked : Option String)
      (permitted : allowed node) :
      Moves scene limit allowed ⟨.answer outcome, [], run⟩ ⟨.ask node asked, [], { run with world := world }⟩

/-- A point of some calls in one pass, with the marks that exits have left behind before it. -/
inductive Point (scene : Scene σ) (limit : Option Nat) (allowed : Node → Prop) (options : Options) :
    List OutputKey → Config σ → Prop
  | start {node : Node} (asked : Option String) (world : σ) (permitted : allowed node) :
      Point scene limit allowed options [] ⟨.ask node asked, [], ⟨.fresh options, [], world⟩⟩
  | move {left : List OutputKey} {point later : Config σ} (reached : Point scene limit allowed options left point)
      (moves : scene.Moves limit allowed point later) :
      Point scene limit allowed options (point.abandoned ++ left) later

/-- A mark can be left behind at an output of a Print node, by a receiver of emissions that exits. -/
def Abandons (scene : Scene σ) (admitted : Node → Prop) (key : OutputKey) : Prop :=
  (∃ signal, scene.host.Raised (.exit signal)) ∧ ∃ node, admitted node ∧ node.kind = .print ∧ key = ⟨node.id, none⟩

variable (scene) in
structure Sits (allowed : Node → Prop) (left : List OutputKey) (config : Config σ) : Prop where
  orderly : Orderly scene.graph (fun node => allowed node ∨ node ∈ scene.graph.nodes) left config.opened config.run
  poised : scene.Poised (fun node => allowed node ∨ node ∈ scene.graph.nodes) config
  abandoned : ∀ key ∈ left, scene.Abandons (fun node => allowed node ∨ node ∈ scene.graph.nodes) key

variable {allowed : Node → Prop} {options : Options} {point : Config σ}

theorem sits_ask (node : Node) (asked : Option String) (permitted : allowed node)
    (orderly : Orderly scene.graph (fun node => allowed node ∨ node ∈ scene.graph.nodes) left [] run)
    (abandoned : ∀ key ∈ left, scene.Abandons (fun node => allowed node ∨ node ∈ scene.graph.nodes) key) :
    scene.Sits allowed left ⟨.ask node asked, [], run⟩ := by
  refine ⟨orderly, ⟨?_, by simp [Control.outcome?], by simp, by simp⟩, abandoned⟩
  intro other otherAsked asks
  cases asks
  exact ⟨.inl permitted, fun waits => absurd rfl waits⟩

theorem sits_fresh (node : Node) (asked : Option String) (permitted : allowed node) (options : Options) (world : σ) :
    scene.Sits allowed [] ⟨.ask node asked, [], ⟨.fresh options, [], world⟩⟩ :=
  sits_ask node asked permitted (.fresh options world) (by simp)

namespace Sits

theorem abandons (sits : scene.Sits allowed left config) {key : OutputKey} (member : key ∈ config.abandoned) :
    scene.Abandons (fun node => allowed node ∨ node ∈ scene.graph.nodes) key := by
  obtain ⟨control, waiting, run⟩ := config
  cases control with
  | ask | gather | answer => cases member
  | close job outcome =>
    unfold Config.abandoned at member
    simp only at member
    split at member
    · rename_i exit
      have proper := sits.orderly.proper (job.node, job.socket) (by simp [Config.opened, Control.opened])
      have print := sits.poised.print job outcome rfl exit
      obtain ⟨inside, asked, declared⟩ := proper
      have bare := Node.output_print print declared
      refine ⟨sits.poised.raised outcome rfl exit, job.node, inside, print, ?_⟩
      rw [List.mem_singleton.mp member, ← bare]
      rfl
    · cases member

theorem next (sits : scene.Sits allowed left config) (stepped : scene.next limit config = some later) :
    scene.Sits allowed (config.abandoned ++ left) later := by
  obtain ⟨change, poised⟩ := next_changes (fun node member => .inr member) sits.poised sits.orderly stepped
  refine ⟨change.orderly sits.orderly, poised, ?_⟩
  intro key member
  rcases List.mem_append.mp member with new | old
  · exact sits.abandons new
  · exact sits.abandoned key old

theorem steps (sits : scene.Sits allowed left config) (steps : scene.Steps limit config later) :
    ∃ left, scene.Sits allowed left later := by
  induction steps with
  | refl => exact ⟨left, sits⟩
  | tail _ stepped ih =>
    obtain ⟨left, sits⟩ := ih
    exact ⟨_, sits.next stepped⟩

theorem moves (sits : scene.Sits allowed left config) (moves : scene.Moves limit allowed config later) :
    scene.Sits allowed (config.abandoned ++ left) later := by
  cases moves with
  | step stepped => exact sits.next stepped
  | call outcome run world asked permitted =>
    exact sits_ask _ asked permitted (sits.orderly.still rfl rfl rfl) sits.abandoned

theorem result? (sits : scene.Sits allowed left config) (moves : ReflTransGen (scene.Moves limit allowed) config later)
    {key : OutputKey} {e : Expression} (known : config.run.pass.result? key = some e) :
    later.run.pass.result? key = some e := by
  induction moves using ReflTransGen.head_induction_on generalizing left with
  | refl => exact known
  | head move _ ih =>
    refine ih (sits.moves move) ?_
    cases move with
    | step stepped =>
      exact (next_changes (fun node member => .inr member) sits.poised sits.orderly stepped).1.result? sits.orderly known
    | call => exact known

theorem waiting_le (sits : scene.Sits allowed left config) : config.waiting.length ≤ scene.graph.origins.length + 1 := by
  have bounded := sits.orderly.bounded
  rw [sits.orderly.stack, List.length_map] at bounded
  have part : config.waiting.length ≤ config.opened.length := by simp [Config.opened]
  omega

theorem next_unlimited (sits : scene.Sits allowed left config) {depth : Nat}
    (large : scene.graph.origins.length + 2 ≤ depth) : scene.next none config = scene.next (some depth) config := by
  have fits := sits.waiting_le
  obtain ⟨control, waiting, run⟩ := config
  cases control with
  | ask node asked =>
    have free : full (some depth) waiting.length = false := by
      simp only [full, Option.any_some, decide_eq_false_iff_not]
      simp only at fits
      omega
    show some (scene.request none node asked waiting run) = some (scene.request (some depth) node asked waiting run)
    unfold request
    rw [free]
    rfl
  | gather job inputs => cases inputs <;> rfl
  | close job outcome => rfl
  | answer outcome => cases waiting <;> cases outcome <;> rfl

theorem steps_unlimited (sits : scene.Sits allowed left config) {depth : Nat}
    (large : scene.graph.origins.length + 2 ≤ depth) (steps : scene.Steps (some depth) config later) :
    scene.Steps none config later := by
  induction steps using ReflTransGen.head_induction_on generalizing left with
  | refl => exact .refl
  | head stepped _ ih => exact .head ((sits.next_unlimited large).trans stepped) (ih (sits.next stepped))

end Sits

theorem answer_unique {outcome other : Except Error Expression} {run otherRun : Run σ}
    (steps : scene.Steps limit config ⟨.answer outcome, [], run⟩)
    (otherSteps : scene.Steps limit config ⟨.answer other, [], otherRun⟩) : outcome = other ∧ run = otherRun := by
  have stuck {outcome : Except Error Expression} {run : Run σ} {later : Config σ}
      (steps : scene.Steps limit ⟨.answer outcome, [], run⟩ later) : later = ⟨.answer outcome, [], run⟩ := by
    rcases ReflTransGen.cases_head steps with same | ⟨_, stepped, _⟩
    · exact same.symm
    · cases outcome <;> cases stepped
  have functional : Relator.RightUnique fun config later : Config σ => scene.next limit config = some later := by
    intro first second third left right
    exact Option.some.inj (left.symm.trans right)
  rcases ReflTransGen.total_of_right_unique functional steps otherSteps with rest | rest
  · have same := stuck rest
    simp_all
  · have same := stuck rest
    simp_all

theorem Point.sits (reached : scene.Point limit allowed options left point) : scene.Sits allowed left point := by
  induction reached with
  | start asked world permitted => exact sits_fresh _ asked permitted options world
  | move _ moves ih => exact ih.moves moves

variable (scene) in
structure Regular (limit : Option Nat) (allowed : Node → Prop) (left : List OutputKey) (point : Config σ) : Prop where
  inProgress : ∀ key, point.run.pass.state key = .inProgress ↔ key ∈ point.run.stack.map Frame.key ∨ key ∈ left
  apart : ∀ key ∈ left, key ∉ point.run.stack.map Frame.key
  abandoned : ∀ key ∈ left, scene.Abandons (fun node => allowed node ∨ node ∈ scene.graph.nodes) key
  clean : (∀ signal, ¬scene.host.Raised (.exit signal)) → left = []
  distinct : (point.run.stack.map Frame.key).Nodup
  named : (∀ node, allowed node → node ∈ scene.graph.nodes) →
    (point.run.stack.map Frame.waypoint).Nodup ∧ ∀ node ∈ scene.graph.nodes, ∀ socket,
      (node.name, socket) ∈ point.run.stack.map Frame.waypoint ↔
        point.run.pass.state ⟨node.id, socket⟩ = .inProgress ∧ ⟨node.id, socket⟩ ∉ left
  resolved : ∀ key, point.run.pass.state key = .resolved ↔ key ∈ point.run.pass.memo.map Prod.fst
  once : (point.run.pass.memo.map Prod.fst).Nodup
  kept : ∀ later, ReflTransGen (scene.Moves limit allowed) point later → ∀ key e,
    point.run.pass.result? key = some e → later.run.pass.result? key = some e
  bounded : point.run.stack.length ≤ 1 + scene.graph.origins.length
  between : ∀ outcome, point.control = .answer outcome → point.waiting = [] →
    point.run.stack = [] ∧ ∀ key, point.run.pass.state key = .inProgress ↔ key ∈ left
  ends : ∀ node asked, point.control = .ask node asked → point.waiting = [] →
    ∃ outcome later, scene.Steps limit point ⟨.answer outcome, [], later⟩ ∧
      ∀ depth, limit = some depth ∨ limit = none ∧ scene.graph.origins.length + 2 ≤ depth →
        (scene.resolve depth node asked).outcome point.run = (outcome, later)

theorem Sits.ends {node : Node} {asked : Option String} (sits : scene.Sits allowed left ⟨.ask node asked, [], run⟩)
    (limit : Option Nat) :
    ∃ outcome later, scene.Steps limit ⟨.ask node asked, [], run⟩ ⟨.answer outcome, [], later⟩ ∧
      ∀ depth, limit = some depth ∨ limit = none ∧ scene.graph.origins.length + 2 ≤ depth →
        (scene.resolve depth node asked).outcome run = (outcome, later) := by
  have steps (depth : Nat) := scene.resolve_steps depth node asked [] run
  simp only [List.length_nil, Nat.zero_add] at steps
  cases limit with
  | some depth =>
    refine ⟨_, _, steps depth, ?_⟩
    intro other bound
    rcases bound with same | ⟨none, _⟩
    · cases same
      rfl
    · cases none
  | none =>
    have unlimited (depth : Nat) (large : scene.graph.origins.length + 2 ≤ depth) :=
      sits.steps_unlimited large (steps depth)
    refine ⟨_, _, unlimited _ (Nat.le_refl _), ?_⟩
    intro depth bound
    rcases bound with some | ⟨_, large⟩
    · cases some
    · obtain ⟨outcome, later⟩ := answer_unique (unlimited depth large) (unlimited _ (Nat.le_refl _))
      exact Prod.ext outcome later

end Scene

def Graph.looped : Graph where
  key := 0
  name := standardName
  nodes := [⟨⟨0, 0⟩, .saturate, "a", []⟩, ⟨⟨0, 1⟩, .saturate, "b", []⟩, ⟨⟨0, 2⟩, .print, "c", []⟩]
  links := [⟨⟨0, 0⟩, "saturated", ⟨0, 1⟩, "value"⟩, ⟨⟨0, 1⟩, "saturated", ⟨0, 0⟩, "value"⟩]
  issued := 3

theorem Graph.looped_built : looped.Built := by
  have first := (Built.empty 0 standardName).add .saturate "a" rfl (by decide) (by decide)
  have second := first.add .saturate "b" rfl (by decide) (by decide)
  have third := second.add .print "c" rfl (by decide) (by decide)
  have there := third.join ⟨⟨0, 0⟩, .saturate, "a", []⟩ "saturated" ⟨⟨0, 1⟩, .saturate, "b", []⟩ "value" rfl
  exact there.join ⟨⟨0, 1⟩, .saturate, "b", []⟩ "saturated" ⟨⟨0, 0⟩, .saturate, "a", []⟩ "value" rfl

def Host.leaving : Host Unit where
  limits := .standard
  log _ world := world
  deliver _ := throw (.exit "interrupt")

end ShaderGraph
