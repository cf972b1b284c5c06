import ShaderGraph.Proofs.Obstruction
import ShaderGraph.Proofs.SideBySide

namespace ShaderGraph

variable {σ τ α : Type}

inductive Error.Alike : Error → Error → Prop
  | failure {left right : Failure} (family : left.family = right.family) : Alike (.failure left) (.failure right)
  | refl (error : Error) : Alike error error

abbrev Lockstep (breaks : Error → Prop) (relation : σ → τ → Prop) :
    Except Error α × σ → Except Error α × τ → Prop :=
  Paired (fun left right => left.1.Alike right.1) breaks relation

namespace Lockstep

variable {breaks : Error → Prop} {relation : σ → τ → Prop}

theorem intro {left : Except Error α × σ} {right : Except Error α × τ} (outcome : right.1 = left.1)
    (state : relation left.2 right.2) : Lockstep breaks relation left right := by
  obtain ⟨result, middle⟩ := left
  obtain ⟨twinResult, twinMiddle⟩ := right
  cases outcome
  cases result with
  | ok a => exact .ok a state
  | error cause => exact .error (.refl cause)

theorem refl (outcome : Except Error α × σ) : Lockstep breaks Eq outcome outcome := intro rfl rfl

theorem leave {relation later : Run σ → Run τ → Prop} {left : Except Error Expression × Run σ}
    {right : Except Error Expression × Run τ} {frame twinFrame : Frame} (lockstep : Lockstep breaks relation left right)
    (keeps : ∀ e run twin, relation run twin → later (run.leave frame (.ok e)) (twin.leave twinFrame (.ok e))) :
    Lockstep breaks later (left.1, left.2.leave frame left.1) (right.1, right.2.leave twinFrame right.1) := by
  cases lockstep with
  | ok e related => exact .ok e (keeps e _ _ related)
  | error alike => exact .error alike
  | broken left stop => exact .broken _ stop

end Lockstep

structure Node.Twin (node twin : Node) : Prop where
  kind : twin.kind = node.kind
  params : twin.params = node.params

theorem Node.Twin.output {node twin : Node} (same : node.Twin twin) (asked : Option String) :
    (∃ socket, node.output asked = .ok socket ∧ twin.output asked = .ok socket) ∨
      ∃ cause twinCause, node.output asked = .error cause ∧ twin.output asked = .error twinCause ∧
        cause.family = twinCause.family := by
  cases asked with
  | none => exact .inl ⟨_, rfl, by rw [Node.output, same.kind]⟩
  | some socket =>
    simp only [Node.output, same.kind]
    split
    · exact .inl ⟨_, rfl, rfl⟩
    · exact .inr ⟨_, _, rfl, rfl, rfl⟩

namespace NodeScope

variable {node twin : Node} {inputs : Inputs} {output : Option String} {options : Options}
  {breaks : Error → Prop}

theorem input_lockstep (node twin : Node) (socket : String) (table : NameTable) :
    Lockstep breaks Eq ((input ⟨node, inputs, output, options⟩ socket).outcome table)
      ((input ⟨twin, inputs, output, options⟩ socket).outcome table) := by
  unfold input
  cases inputs.lookup socket with
  | some e => exact .refl _
  | none => exact .error (.failure rfl)

theorem requireOutput_lockstep (node twin : Node) (table : NameTable) :
    Lockstep breaks Eq ((requireOutput ⟨node, inputs, output, options⟩).outcome table)
      ((requireOutput ⟨twin, inputs, output, options⟩).outcome table) := by
  cases output with
  | some socket => exact .refl _
  | none => exact .error (.failure rfl)

theorem takeLane_lockstep (node twin : Node) (e : Expression) (lane : String) (table : NameTable) :
    Lockstep breaks Eq ((takeLane ⟨node, inputs, output, options⟩ e lane).outcome table)
      ((takeLane ⟨twin, inputs, output, options⟩ e lane).outcome table) := by
  refine (input_lockstep node twin lane table).bind ?_
  rintro scalar middle _ rfl
  exact Lockstep.refl _

theorem vector_lockstep (node twin : Node) (table : NameTable) :
    Lockstep breaks Eq ((vector ⟨node, inputs, output, options⟩).outcome table)
      ((vector ⟨twin, inputs, output, options⟩).outcome table) := by
  refine (takeLane_lockstep node twin _ "x" table).bind ?_
  rintro x table _ rfl
  refine (takeLane_lockstep node twin _ "y" table).bind ?_
  rintro y table _ rfl
  refine (takeLane_lockstep node twin _ "z" table).bind ?_
  rintro z table _ rfl
  refine (takeLane_lockstep node twin _ "w" table).bind ?_
  rintro w table _ rfl
  exact Lockstep.refl _

theorem express_lockstep (same : node.Twin twin) (table : NameTable) :
    Lockstep breaks Eq ((express ⟨node, inputs, output, options⟩).outcome table)
      ((express ⟨twin, inputs, output, options⟩).outcome table) := by
  have required {next twinNext : String → Naming Expression} (agree : ∀ socket, twinNext socket = next socket) :
      Lockstep breaks Eq ((requireOutput ⟨node, inputs, output, options⟩ >>= next).outcome table)
        ((requireOutput ⟨twin, inputs, output, options⟩ >>= twinNext).outcome table) := by
    refine (requireOutput_lockstep node twin table).bind ?_
    rintro socket middle _ rfl
    rw [agree]
    exact Lockstep.refl _
  have taken {next twinNext : Expression → Naming Expression} (socket : String)
      (agree : ∀ e, twinNext e = next e) (table : NameTable) :
      Lockstep breaks Eq ((input ⟨node, inputs, output, options⟩ socket >>= next).outcome table)
        ((input ⟨twin, inputs, output, options⟩ socket >>= twinNext).outcome table) := by
    refine (input_lockstep node twin socket table).bind ?_
    rintro e middle _ rfl
    rw [agree]
    exact Lockstep.refl _
  simp only [express, same.kind]
  cases node.kind with
  | normal | uv | position | texture => exact required fun _ => rfl
  | extend =>
    refine taken "value" (fun e => ?_) table
    simp only [Node.amount, same.params]
  | saturate => exact taken "value" (fun _ => rfl) table
  | component =>
    refine (requireOutput_lockstep node twin table).bind ?_
    rintro lane middle _ rfl
    exact taken "value" (fun _ => rfl) middle
  | vector => exact vector_lockstep node twin table
  | print => exact input_lockstep node twin "output" table
  | preview => exact input_lockstep node twin "input" table

end NodeScope

def OutputKey.along (move : NodeId → NodeId) (key : OutputKey) : OutputKey := ⟨move key.node, key.socket⟩

def moved (move : NodeId → NodeId) (entries : List (OutputKey × α)) : List (OutputKey × α) :=
  entries.map fun entry => (entry.1.along move, entry.2)

/-- Two runs that differ in the nodes only: what one has resolved or is resolving is within a set of nodes, and the other
    has it at the nodes that these are moved to. -/
structure Parallel (move : NodeId → NodeId) (within : NodeId → Prop) (run : Run σ) (twin : Run τ) : Prop where
  options : twin.pass.options = run.pass.options
  names : twin.pass.names = run.pass.names
  memo : twin.pass.memo = moved move run.pass.memo
  states : twin.pass.states = moved move run.pass.states
  settled : ∀ entry ∈ run.pass.memo, within entry.1.node
  visited : ∀ entry ∈ run.pass.states, within entry.1.node

namespace Parallel

variable {move : NodeId → NodeId} {within : NodeId → Prop} {run : Run σ} {twin : Run τ}

theorem fresh (options : Options) (world : σ) (twinWorld : τ) :
    Parallel move within ⟨.fresh options, [], world⟩ ⟨.fresh options, [], twinWorld⟩ :=
  ⟨rfl, rfl, rfl, rfl, by simp [Pass.fresh], by simp [Pass.fresh]⟩

theorem quiet (parallel : Parallel move within run twin) {later : Run σ} {twinLater : Run τ} (left : run.Quiet later)
    (right : twin.Quiet twinLater) : Parallel move within later twinLater := by
  constructor
  · rw [left.options, right.options, parallel.options]
  · rw [left.names, right.names, parallel.names]
  · rw [left.memo, right.memo, parallel.memo]
  · rw [left.states, right.states, parallel.states]
  · rw [left.memo]
    exact parallel.settled
  · rw [left.states]
    exact parallel.visited

theorem named (parallel : Parallel move within run twin) (names : NameTable) :
    Parallel move within (run.named names) (twin.named names) :=
  ⟨parallel.options, rfl, parallel.memo, parallel.states, parallel.settled, parallel.visited⟩

section Injective

variable (injective : ∀ {id other}, within id → within other → move id = move other → id = other)

include injective

theorem along_inj {key other : OutputKey} (inside : within key.node) (otherInside : within other.node) :
    key.along move = other.along move ↔ key = other := by
  constructor
  · intro same
    obtain ⟨id, socket⟩ := key
    obtain ⟨otherId, otherSocket⟩ := other
    simp only [OutputKey.along, OutputKey.mk.injEq] at same ⊢
    exact ⟨injective inside otherInside same.1, same.2⟩
  · rintro rfl
    rfl

theorem lookup_moved {entries : List (OutputKey × α)} (all : ∀ entry ∈ entries, within entry.1.node) {key : OutputKey}
    (inside : within key.node) : (moved move entries).lookup (key.along move) = entries.lookup key := by
  unfold moved
  induction entries with
  | nil => rfl
  | cons entry entries ih =>
    have here : (key.along move == entry.1.along move) = (key == entry.1) := by
      rw [Bool.eq_iff_iff, beq_iff_eq, beq_iff_eq]
      exact along_inj injective inside (all entry (by simp))
    rw [List.map_cons, List.lookup_cons, List.lookup_cons, here, ih fun other member => all other (by simp [member])]

theorem filter_moved {entries : List (OutputKey × α)} (all : ∀ entry ∈ entries, within entry.1.node) {key : OutputKey}
    (inside : within key.node) :
    (moved move entries).filter (fun entry => entry.1 != key.along move) =
      moved move (entries.filter fun entry => entry.1 != key) := by
  unfold moved
  rw [List.filter_map]
  congr 1
  apply List.filter_congr
  intro entry member
  have here := along_inj injective (all entry member) inside
  simp [here, bne_eq]

theorem result? (parallel : Parallel move within run twin) (key : OutputKey) (inside : within key.node) :
    twin.pass.result? (key.along move) = run.pass.result? key := by
  unfold Pass.result?
  rw [parallel.memo]
  exact lookup_moved injective parallel.settled inside

theorem state (parallel : Parallel move within run twin) (key : OutputKey) (inside : within key.node) :
    twin.pass.state (key.along move) = run.pass.state key := by
  unfold Pass.state
  rw [parallel.states, lookup_moved injective parallel.visited inside]

theorem unmark (parallel : Parallel move within run twin) (key : OutputKey) (inside : within key.node) :
    (twin.pass.unmark (key.along move)).states = moved move (run.pass.unmark key).states ∧
      ∀ entry ∈ (run.pass.unmark key).states, within entry.1.node := by
  constructor
  · unfold Pass.unmark
    simp only [parallel.states]
    exact filter_moved injective parallel.visited inside
  · intro entry member
    exact parallel.visited entry (List.mem_of_mem_filter member)

theorem mark (parallel : Parallel move within run twin) (key : OutputKey) (inside : within key.node)
    (state : VisitState) :
    (twin.pass.mark (key.along move) state).states = moved move (run.pass.mark key state).states ∧
      ∀ entry ∈ (run.pass.mark key state).states, within entry.1.node := by
  obtain ⟨others, within⟩ := parallel.unmark injective key inside
  simp only [Pass.mark, others]
  exact ⟨rfl, List.forall_mem_cons.mpr ⟨inside, within⟩⟩

theorem enter (parallel : Parallel move within run twin) {frame twinFrame : Frame}
    (same : twinFrame.key = frame.key.along move) (inside : within frame.node) :
    Parallel move within (run.enter frame) (twin.enter twinFrame) := by
  obtain ⟨states, visited⟩ := parallel.mark injective frame.key inside .inProgress
  rw [← same] at states
  exact ⟨parallel.options, parallel.names, parallel.memo, states, parallel.settled, visited⟩

theorem leave (parallel : Parallel move within run twin) {frame twinFrame : Frame}
    (same : twinFrame.key = frame.key.along move) (inside : within frame.node) (e : Expression) :
    Parallel move within (run.leave frame (.ok e)) (twin.leave twinFrame (.ok e)) := by
  obtain ⟨states, visited⟩ := parallel.mark injective frame.key inside .resolved
  rw [← same] at states
  have memo : (twinFrame.key, e) :: twin.pass.memo = moved move ((frame.key, e) :: run.pass.memo) := by
    rw [parallel.memo, same]
    rfl
  exact ⟨parallel.options, parallel.names, memo, states, List.forall_mem_cons.mpr ⟨inside, parallel.settled⟩, visited⟩

end Injective

end Parallel

/-- Related runs have the same options and names. A change of the names on both sides keeps them related, and so does
    anything that is done outside the pass. -/
structure Respectful (relation : Run σ → Run τ → Prop) : Prop where
  options : ∀ {run twin}, relation run twin → twin.pass.options = run.pass.options
  names : ∀ {run twin}, relation run twin → twin.pass.names = run.pass.names
  quiet : ∀ {run twin later twinLater}, relation run twin → run.Quiet later → twin.Quiet twinLater →
    relation later twinLater
  named : ∀ {run twin}, relation run twin → ∀ names, relation (run.named names) (twin.named names)

theorem Parallel.respectful (move : NodeId → NodeId) (within : NodeId → Prop) :
    Respectful (Parallel move within : Run σ → Run τ → Prop) :=
  ⟨Parallel.options, Parallel.names, fun parallel => parallel.quiet, Parallel.named⟩

structure Followed (relation : Run σ → Run τ → Prop) (graph other : Graph) (run : Run σ) (twin : Run τ) : Prop where
  related : relation run twin
  tracked : run.Tracked graph
  twinTracked : twin.Tracked other

theorem Run.Tracked.quiet {graph : Graph} {run later : Run σ} (tracked : run.Tracked graph) (quiet : run.Quiet later) :
    later.Tracked graph := by
  unfold Run.Tracked
  rw [quiet.stack, quiet.state]
  exact tracked

theorem Respectful.followed {relation : Run σ → Run τ → Prop} (respectful : Respectful relation) (graph other : Graph) :
    Respectful (Followed relation graph other) where
  options followed := respectful.options followed.related
  names followed := respectful.names followed.related
  quiet followed left right :=
    ⟨respectful.quiet followed.related left right, followed.tracked.quiet left, followed.twinTracked.quiet right⟩
  named followed names := ⟨respectful.named followed.related names, followed.tracked, followed.twinTracked⟩

theorem Resolving.naming_lockstep {breaks : Error → Prop} {relation : Run σ → Run τ → Prop}
    (respectful : Respectful relation) {run : Run σ} {twinRun : Run τ} (related : relation run twinRun)
    {action twinAction : Naming α}
    (agree : Lockstep breaks Eq (action.outcome run.pass.names) (twinAction.outcome run.pass.names)) :
    Lockstep breaks relation ((naming action).outcome run) ((naming twinAction).outcome twinRun) := by
  rw [outcome_naming, outcome_naming, respectful.names related]
  generalize action.outcome run.pass.names = left at agree ⊢
  generalize twinAction.outcome run.pass.names = right at agree ⊢
  cases agree with
  | ok a same =>
    subst same
    exact .ok a (respectful.named related _)
  | error alike => exact .error alike
  | broken _ stop => exact .broken _ stop

namespace Host

variable {breaks : Error → Prop} {relation : Run σ → Run τ → Prop} {run : Run σ} {twinRun : Run τ} {host : Host σ}
  {twinHost : Host τ} {node twin : Node}

theorem announceFrom_lockstep (respectful : Respectful relation) (accepts : host.Accepts)
    (twinAccepts : twinHost.Accepts) (digits : twinHost.limits.digits = host.limits.digits) (same : node.Twin twin)
    (e : Expression) (related : relation run twinRun) :
    Lockstep breaks relation ((host.announceFrom node e).outcome run)
      ((twinHost.announceFrom twin e).outcome twinRun) := by
  refine .intro ?_ (respectful.quiet related (host.announceFrom_quiet node e run)
    (twinHost.announceFrom_quiet twin e twinRun))
  rw [announceFrom_outcome accepts, announceFrom_outcome twinAccepts, same.kind, digits, respectful.options related]

theorem apply_lockstep (respectful : Respectful relation) (accepts : host.Accepts) (twinAccepts : twinHost.Accepts)
    (digits : twinHost.limits.digits = host.limits.digits) (same : node.Twin twin) (inputs : Inputs)
    (output : Option String) (related : relation run twinRun) :
    Lockstep breaks relation ((host.apply node inputs output).outcome run)
      ((twinHost.apply twin inputs output).outcome twinRun) := by
  rw [apply, apply, Step.outcome_bind_ok (Step.outcome_get run), Step.outcome_bind_ok (Step.outcome_get twinRun)]
  refine Paired.bind ?_ fun e middle twinMiddle related => ?_
  · rw [respectful.options related]
    exact Resolving.naming_lockstep respectful related (NodeScope.express_lockstep same run.pass.names)
  · refine (announceFrom_lockstep respectful accepts twinAccepts digits same e related).bind
      fun _ last twinLast related => ?_
    exact .ok e related

end Host

namespace Scene

variable {scene : Scene σ} {other : Scene τ} {failed : Error × Run σ → Error × Run τ → Prop} {breaks : Error → Prop}
  {relation : Run σ → Run τ → Prop} {node twin : Node} {run : Run σ} {twinRun : Run τ}

theorem note_lockstep (respectful : Respectful relation) (level : Int) (message twinMessage : String)
    (related : relation run twinRun) :
    Lockstep breaks relation ((scene.note level message).outcome run) ((other.note level twinMessage).outcome twinRun) :=
  .ok () (respectful.quiet related ⟨rfl, rfl, rfl, rfl, rfl⟩ ⟨rfl, rfl, rfl, rfl, rfl⟩)

theorem resolve_followed {depth room : Nat} {asked twinAsked : Option String} (tracked : run.Tracked scene.graph)
    (twinTracked : twinRun.Tracked other.graph)
    (paired : Paired failed breaks relation ((scene.resolve depth node asked).outcome run)
      ((other.resolve room twin twinAsked).outcome twinRun)) :
    Paired failed breaks (Followed relation scene.graph other.graph) ((scene.resolve depth node asked).outcome run)
      ((other.resolve room twin twinAsked).outcome twinRun) := by
  have left : scene.Resolves (fun _ => True) node asked run ((scene.resolve depth node asked).outcome run) :=
    scene.resolve_resolves (fun _ _ => trivial) depth trivial asked run
  have right : other.Resolves (fun _ => True) twin twinAsked twinRun ((other.resolve room twin twinAsked).outcome twinRun) :=
    other.resolve_resolves (fun _ _ => trivial) room trivial twinAsked twinRun
  refine paired.mono fun e ok twinOk related => ⟨related, ?_, ?_⟩
  · have advances := left.advances
    rw [ok] at advances
    exact tracked.advance advances
  · have advances := right.advances
    rw [twinOk] at advances
    exact twinTracked.advance advances

theorem step_visited {recur : Node → Option String → Resolving σ Expression}
    {twinRecur : Node → Option String → Resolving τ Expression} {asked output : Option String}
    (declared : node.output asked = .ok output) (twinDeclared : twin.output asked = .ok output)
    (inside : node ∈ scene.graph.nodes) (twinInside : twin ∈ other.graph.nodes) (tracked : run.Tracked scene.graph)
    (twinTracked : twinRun.Tracked other.graph)
    (quiet : ∀ {later twinLater}, run.Quiet later → twinRun.Quiet twinLater → relation later twinLater)
    (state : twinRun.pass.state ⟨twin.id, output⟩ = run.pass.state ⟨node.id, output⟩)
    (result : twinRun.pass.result? ⟨twin.id, output⟩ = run.pass.result? ⟨node.id, output⟩)
    (visited : run.pass.state ⟨node.id, output⟩ ≠ .unvisited) :
    Lockstep breaks relation ((scene.step recur node asked).outcome run)
      ((other.step twinRecur twin asked).outcome twinRun) := by
  cases current : run.pass.state ⟨node.id, output⟩ with
  | unvisited => exact absurd current visited
  | inProgress =>
    rw [current] at state
    obtain ⟨path, met⟩ := tracked.met inside current
    obtain ⟨twinPath, twinMet⟩ := twinTracked.met twinInside state
    rw [step_active declared current, step_active twinDeclared state, met, twinMet]
    exact .error (.failure rfl)
  | resolved =>
    rw [current] at state
    cases known : run.pass.result? ⟨node.id, output⟩ with
    | some e =>
      rw [known] at result
      obtain ⟨later, kept, left⟩ : ∃ later, (scene.step recur node asked).outcome run = (.ok e, later) ∧
          run.Quiet later := step_known declared current known
      obtain ⟨twinLater, twinKept, right⟩ : ∃ later, (other.step twinRecur twin asked).outcome twinRun =
          (.ok e, later) ∧ twinRun.Quiet later := step_known twinDeclared state result
      rw [kept, twinKept]
      exact .ok e (quiet left right)
    | none =>
      rw [known] at result
      obtain ⟨later, lost, left⟩ : ∃ later, (scene.step recur node asked).outcome run =
          (.error (.unknownLabel (output.getD "None")), later) ∧ run.Quiet later := step_unknown declared current known
      obtain ⟨twinLater, twinLost, right⟩ : ∃ later, (other.step twinRecur twin asked).outcome twinRun =
          (.error (.unknownLabel (output.getD "None")), later) ∧ twinRun.Quiet later :=
        step_unknown twinDeclared state result
      rw [lost, twinLost]
      exact .error (.refl _)

end Scene

end ShaderGraph
