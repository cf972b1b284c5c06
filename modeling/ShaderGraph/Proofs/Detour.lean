import ShaderGraph.Proofs.CompileOutcome
import ShaderGraph.Proofs.Lockstep

namespace ShaderGraph

variable {σ τ α : Type}

abbrev Shadow (relation : σ → τ → Prop) : Except Error α × σ → Except Error α × τ → Prop :=
  Lockstep (· = .nesting) relation

theorem Node.Twin.refl (node : Node) : node.Twin node := ⟨rfl, rfl⟩

structure Agrees (within : NodeId → Prop) (run : Run σ) (twin : Run τ) : Prop where
  options : twin.pass.options = run.pass.options
  names : twin.pass.names = run.pass.names
  state : ∀ key : OutputKey, within key.node → twin.pass.state key = run.pass.state key
  result : ∀ key : OutputKey, within key.node → twin.pass.result? key = run.pass.result? key

namespace Agrees

variable {within : NodeId → Prop} {run : Run σ} {twin : Run τ}

theorem quiet (agrees : Agrees within run twin) {later : Run σ} {twinLater : Run τ} (left : run.Quiet later)
    (right : twin.Quiet twinLater) : Agrees within later twinLater := by
  constructor
  · rw [left.options, right.options, agrees.options]
  · rw [left.names, right.names, agrees.names]
  · rw [left.state, right.state]
    exact agrees.state
  · unfold Pass.result?
    rw [left.memo, right.memo]
    exact agrees.result

theorem enter (agrees : Agrees within run twin) (frame : Frame) :
    Agrees within (run.enter frame) (twin.enter frame) := by
  refine ⟨agrees.options, agrees.names, ?_, agrees.result⟩
  intro key inside
  simp [Run.enter, agrees.state key inside]

theorem leave (agrees : Agrees within run twin) (frame : Frame) (e : Expression) :
    Agrees within (run.leave frame (.ok e)) (twin.leave frame (.ok e)) := by
  refine ⟨agrees.options, agrees.names, ?_, ?_⟩
  · intro key inside
    simp [Run.leave, agrees.state key inside]
  · intro key inside
    simp [Run.leave, Pass.result?_finish, agrees.result key inside]

theorem enter_outside (agrees : Agrees within run twin) {frame : Frame} (outside : ¬within frame.node) :
    Agrees within run (twin.enter frame) := by
  refine ⟨agrees.options, agrees.names, ?_, agrees.result⟩
  intro key inside
  have other : key ≠ frame.key := by
    rintro rfl
    exact outside inside
  simp [Run.enter, other, agrees.state key inside]

theorem leave_outside (agrees : Agrees within run twin) {frame : Frame} (outside : ¬within frame.node)
    (e : Expression) : Agrees within run (twin.leave frame (.ok e)) := by
  have other {key : OutputKey} (inside : within key.node) : key ≠ frame.key := by
    rintro rfl
    exact outside inside
  refine ⟨agrees.options, agrees.names, ?_, ?_⟩
  · intro key inside
    simp [Run.leave, other inside, agrees.state key inside]
  · intro key inside
    simp [Run.leave, Pass.result?_finish, other inside, agrees.result key inside]

end Agrees

/-- An output that only the second run knows stands for another one: it is settled with the same result, and under
    resolution only while the other is. -/
structure Detoured (within : NodeId → Prop) (relay origin : OutputKey) (run : Run σ) (twin : Run τ) : Prop
    extends Agrees within run twin where
  settled : twin.pass.state relay = .resolved → twin.pass.state origin = .resolved ∧
    ∃ e, twin.pass.result? relay = some e ∧ twin.pass.result? origin = some e
  opened : twin.pass.state relay = .inProgress → twin.pass.state origin = .inProgress

namespace Detoured

variable {within : NodeId → Prop} {relay origin : OutputKey} {run : Run σ} {twin : Run τ}

theorem fresh (options : Options) (world : σ) (twinWorld : τ) :
    Detoured within relay origin ⟨.fresh options, [], world⟩ ⟨.fresh options, [], twinWorld⟩ where
  options := rfl
  names := rfl
  state _ _ := rfl
  result _ _ := rfl
  settled := by simp [Pass.fresh, Pass.state]
  opened := by simp [Pass.fresh, Pass.state]

theorem quiet (detoured : Detoured within relay origin run twin) {later : Run σ} {twinLater : Run τ}
    (left : run.Quiet later) (right : twin.Quiet twinLater) : Detoured within relay origin later twinLater := by
  refine ⟨detoured.toAgrees.quiet left right, ?_, ?_⟩
  · unfold Pass.result?
    rw [right.state, right.memo]
    exact detoured.settled
  · rw [right.state]
    exact detoured.opened

theorem respectful (within : NodeId → Prop) (relay origin : OutputKey) :
    Respectful (Detoured within relay origin : Run σ → Run τ → Prop) where
  options detoured := detoured.options
  names detoured := detoured.names
  quiet detoured := detoured.quiet
  named detoured _ :=
    ⟨⟨detoured.options, rfl, detoured.state, detoured.result⟩, detoured.settled, detoured.opened⟩

theorem unvisited (detoured : Detoured within relay origin run twin) (new : twin.pass.state origin = .unvisited) :
    twin.pass.state relay = .unvisited := by
  cases visited : twin.pass.state relay with
  | unvisited => rfl
  | inProgress => simp [detoured.opened visited] at new
  | resolved => simp [(detoured.settled visited).1] at new

theorem enter (detoured : Detoured within relay origin run twin) {frame : Frame} (other : frame.key ≠ relay)
    (new : twin.pass.state frame.key = .unvisited) :
    Detoured within relay origin (run.enter frame) (twin.enter frame) := by
  have kept : (twin.enter frame).pass.state relay = twin.pass.state relay := by simp [Run.enter, Ne.symm other]
  by_cases same : frame.key = origin
  · have free := detoured.unvisited (same ▸ new)
    refine ⟨detoured.toAgrees.enter frame, ?_, ?_⟩ <;> simp [kept, free]
  · have origins : (twin.enter frame).pass.state origin = twin.pass.state origin := by
      simp [Run.enter, Ne.symm same]
    refine ⟨detoured.toAgrees.enter frame, ?_, ?_⟩
    · rw [kept, origins]
      exact detoured.settled
    · rw [kept, origins]
      exact detoured.opened

theorem leave (detoured : Detoured within relay origin run twin) {frame : Frame} (other : frame.key ≠ relay)
    (current : twin.pass.state frame.key = .inProgress)
    (alone : frame.key = origin → twin.pass.state relay ≠ .inProgress) (e : Expression) :
    Detoured within relay origin (run.leave frame (.ok e)) (twin.leave frame (.ok e)) := by
  have kept : (twin.leave frame (.ok e)).pass.state relay = twin.pass.state relay := by
    simp [Run.leave, Ne.symm other]
  have results {key : OutputKey} (different : key ≠ frame.key) :
      (twin.leave frame (.ok e)).pass.result? key = twin.pass.result? key := by
    simp [Run.leave, Pass.result?_finish, different]
  by_cases same : frame.key = origin
  · have unsettled : twin.pass.state relay ≠ .resolved := by
      intro resolved
      simp [same, (detoured.settled resolved).1] at current
    refine ⟨detoured.toAgrees.leave frame e, ?_, ?_⟩
    · rw [kept]
      exact fun resolved => absurd resolved unsettled
    · rw [kept]
      exact fun opened => absurd opened (alone same)
  · have origins : (twin.leave frame (.ok e)).pass.state origin = twin.pass.state origin := by
      simp [Run.leave, Ne.symm same]
    refine ⟨detoured.toAgrees.leave frame e, ?_, ?_⟩
    · rw [kept, origins, results (Ne.symm other), results (Ne.symm same)]
      exact detoured.settled
    · rw [kept, origins]
      exact detoured.opened

end Detoured

/-- Among some nodes that are closed upstream, the second graph has the same nodes and links as the first, except that
    where a link of the first starts at one output, the second may have one from a node that passes this output on. -/
structure Graph.Detour (graph other : Graph) (within : NodeId → Prop) (relay : Node) (outlet : Option String)
    (input : String) (origin : Node) (socket : String) : Prop where
  distinct : (graph.nodes.map Node.id).Nodup
  otherDistinct : (other.nodes.map Node.id).Nodup
  closed : ∀ id, within id → ∀ name link, graph.inputLink? id name = some link → within link.source
  shared : ∀ id, within id → other.find? id = graph.find? id
  links : ∀ id, within id → ∀ name, other.inputLink? id name = graph.inputLink? id name ∨
    ∃ link detour, graph.inputLink? id name = some link ∧ link.source = origin.id ∧ link.output = socket ∧
      other.inputLink? id name = some detour ∧ detour.source = relay.id ∧ relay.output (some detour.output) = .ok outlet
  started : graph.find? origin.id = some origin
  above : within origin.id
  declared : origin.output (some socket) = .ok (some socket)
  member : other.find? relay.id = some relay
  outside : ¬within relay.id
  kind : relay.kind.relay? = some input
  fed : ∃ link, other.inputLink? relay.id input = some link ∧ link.source = origin.id ∧ link.output = socket

theorem Catalog.Conforms.relay_inputs {catalog : Catalog} (conforms : catalog.Conforms) {kind : NodeKind}
    {input : String} (passes : kind.relay? = some input) : ∃ own, (catalog kind).inputs = [own] ∧ own.name = input := by
  have same := conforms kind
  cases kind <;> cases passes
  all_goals
    obtain ⟨own, single, named⟩ := List.map_eq_singleton_iff.mp same
    exact ⟨own, single, (Prod.mk.inj named).1⟩

theorem Host.apply_relay {host : Host σ} (accepts : host.Accepts) {node : Node} {input : String}
    (passes : node.kind.relay? = some input) {inputs : Inputs} {e : Expression} (given : inputs.lookup input = some e)
    (output : Option String) (run : Run σ) :
    (∃ last, (host.apply node inputs output).outcome run = (.ok e, last) ∧ run.Quiet last) ∨
      node.kind = .print ∧ ∃ cause, Source.render host.limits.digits run.pass.options e = .error cause ∧
        ((host.apply node inputs output).outcome run).1 = .error cause := by
  have named := Resolving.naming_relay passes given output run
  have announced := announceFrom_outcome accepts node e run
  have quiet := host.announceFrom_quiet node e run
  rw [apply, Step.outcome_bind_ok (Step.outcome_get run), Step.outcome_bind_ok named, Step.outcome_bind]
  generalize (host.announceFrom node e).outcome run = answer at announced quiet ⊢
  rcases answer with ⟨cause | _, last⟩
  · right
    split at announced
    · rename_i print
      refine ⟨print, cause, ?_, rfl⟩
      cases rendered : Source.render host.limits.digits run.pass.options e with
      | error other =>
        rw [rendered] at announced
        cases announced
        rfl
      | ok source =>
        rw [rendered] at announced
        cases announced
    · cases announced
  · exact .inl ⟨last, rfl, quiet⟩

namespace Scene

variable {scene : Scene σ} {other : Scene τ} {within : NodeId → Prop} {relay origin : Node} {outlet : Option String}
  {input socket : String}

section Relay

variable (detour : scene.graph.Detour other.graph within relay outlet input origin socket)
  (conforms : other.catalog.Conforms) {recur : Node → Option String → Resolving τ Expression} {run later : Run τ}

include detour conforms

theorem relay_inputs : other.inputs recur relay = do return [(input, ← recur origin (some socket))] := by
  obtain ⟨own, single, rfl⟩ := conforms.relay_inputs detour.kind
  obtain ⟨link, joined, source, output⟩ := detour.fed
  have found : other.graph.find? link.source = some origin := by
    rw [source, detour.shared _ detour.above, detour.started]
  simp [inputs, single, Scene.input, joined, found, output]

theorem relay_failed {cause : Error} (failed : (recur origin (some socket)).outcome run = (.error cause, later)) :
    (other.work recur relay outlet).outcome run = (.error cause, later) := by
  apply work_failed
  rw [relay_inputs detour conforms, Step.outcome_bind_error failed]

theorem relay_passed (accepts : other.host.Accepts) {e : Expression}
    (passed : (recur origin (some socket)).outcome run = (.ok e, later)) :
    (∃ last, (other.work recur relay outlet).outcome run = (.ok e, last) ∧ later.Quiet last) ∨
      relay.kind = .print ∧ ∃ cause, Source.render other.host.limits.digits later.pass.options e = .error cause ∧
        ((other.work recur relay outlet).outcome run).1 = .error cause := by
  have gathered : (other.inputs recur relay).outcome run = (.ok [(input, e)], later) := by
    rw [relay_inputs detour conforms, Step.outcome_bind_ok passed]
    rfl
  obtain ⟨noted, quiet, worked⟩ : ∃ noted, later.Quiet noted ∧ (other.work recur relay outlet).outcome run =
      (other.host.apply relay [(input, e)] outlet).outcome noted := work_gathered gathered
  have given : List.lookup input [(input, e)] = some e := by simp
  rw [worked, ← quiet.options]
  rcases Host.apply_relay accepts detour.kind given outlet noted with ⟨last, applied, still⟩ | refused
  · exact .inl ⟨last, applied, quiet.trans still⟩
  · exact .inr refused

end Relay

theorem work_opened {recur : Node → Option String → Resolving τ Expression}
    (resolves : ∀ node, True → ∀ asked run, other.Resolves (fun _ => True) node asked run ((recur node asked).outcome run))
    {node : Node} {output : Option String} {run : Run τ} {e : Expression}
    (ok : ((other.work recur node output).outcome run).1 = .ok e) (key : OutputKey) :
    ((other.work recur node output).outcome run).2.pass.state key = .inProgress ↔ run.pass.state key = .inProgress := by
  obtain ⟨middle, advances, ⟨cause, failed, _⟩ | ⟨_, result, _, _, _, quiet, _⟩⟩ :=
    work_advances resolves (fun _ _ => trivial) node output run
  · rw [failed] at ok
    cases ok
  · rw [ok] at advances
    rw [quiet.state]
    exact ⟨advances.closed rfl key, advances.opened key⟩

theorem step_settled {recur : Node → Option String → Resolving σ Expression} {node : Node} {asked output : Option String}
    (declared : node.output asked = .ok output) {run later : Run σ} {e : Expression}
    (ok : (scene.step recur node asked).outcome run = (.ok e, later)) :
    later.pass.state ⟨node.id, output⟩ = .resolved ∧ later.pass.result? ⟨node.id, output⟩ = some e := by
  cases visited : run.pass.state ⟨node.id, output⟩ with
  | resolved =>
    cases known : run.pass.result? ⟨node.id, output⟩ with
    | some own =>
      obtain ⟨last, kept, quiet⟩ : ∃ last, (scene.step recur node asked).outcome run = (.ok own, last) ∧
          run.Quiet last := step_known declared visited known
      rw [kept] at ok
      cases ok
      unfold Pass.result? at known ⊢
      rw [quiet.state, quiet.memo]
      exact ⟨visited, known⟩
    | none =>
      obtain ⟨last, lost, _⟩ : ∃ last, (scene.step recur node asked).outcome run =
          (.error (.unknownLabel (output.getD "None")), last) ∧ run.Quiet last := step_unknown declared visited known
      rw [lost] at ok
      cases ok
  | inProgress =>
    rw [step_active declared visited] at ok
    cases ok
  | unvisited =>
    rw [step_visit declared visited] at ok
    obtain ⟨worked, rfl⟩ := Prod.mk.inj ok
    rw [worked]
    simp [Run.leave, Frame.key, Pass.result?_finish]

abbrev Across (graph other : Graph) (within : NodeId → Prop) (relay : Node) (outlet : Option String) (origin : Node)
    (socket : String) : Run σ → Run τ → Prop :=
  Followed (Detoured within ⟨relay.id, outlet⟩ ⟨origin.id, some socket⟩) graph other

section Step

variable (catalog : other.catalog = scene.catalog)
  (detour : scene.graph.Detour other.graph within relay outlet input origin socket) (accepts : scene.host.Accepts)
  (otherAccepts : other.host.Accepts) (digits : other.host.limits.digits = scene.host.limits.digits)
  {recur : Node → Option String → Resolving σ Expression} {twinRecur : Node → Option String → Resolving τ Expression}
  (follows : ∀ node, scene.graph.find? node.id = some node → within node.id → ∀ asked run twin,
    Across scene.graph other.graph within relay outlet origin socket run twin →
    Shadow (Across scene.graph other.graph within relay outlet origin socket) ((recur node asked).outcome run)
      ((twinRecur node asked).outcome twin))
  (relays : ∀ output, relay.output (some output) = .ok outlet → ∀ run twin,
    Across scene.graph other.graph within relay outlet origin socket run twin →
    Shadow (Across scene.graph other.graph within relay outlet origin socket) ((recur origin (some socket)).outcome run)
      ((twinRecur relay (some output)).outcome twin))
  {node : Node} (inside : within node.id) {run : Run σ} {twin : Run τ}
  (across : Across scene.graph other.graph within relay outlet origin socket run twin)

include detour follows relays inside across

theorem input_shadow (own : InputSocket) :
    Shadow (Across scene.graph other.graph within relay outlet origin socket) ((scene.input recur node own).outcome run)
      ((other.input twinRecur node own).outcome twin) := by
  rcases detour.links node.id inside own.name with
    same | ⟨link, around, joined, source, output, otherJoined, otherSource, declared⟩
  · simp only [Scene.input, same]
    cases joined : scene.graph.inputLink? node.id own.name with
    | none =>
      by_cases required : own.required = true
      · simp only [required, if_true]
        exact .error (.refl _)
      · simp only [required]
        exact .ok _ across
    | some link =>
      have above := detour.closed node.id inside own.name link joined
      simp only [detour.shared _ above]
      cases found : scene.graph.find? link.source with
      | none => exact .ok _ across
      | some source =>
        have id := (Graph.mem_of_find? found).2
        rw [← id] at found above
        exact follows source found above (some link.output) run twin across
  · simp only [Scene.input, joined, otherJoined, source, otherSource, output, detour.started, detour.member]
    exact relays around.output declared run twin across

include catalog accepts otherAccepts digits

theorem work_shadow (output : Option String) :
    Shadow (Across scene.graph other.graph within relay outlet origin socket) ((scene.work recur node output).outcome run)
      ((other.work twinRecur node output).outcome twin) := by
  have respectful := (Detoured.respectful within ⟨relay.id, outlet⟩ ⟨origin.id, some socket⟩ :
    Respectful (Detoured within _ _ : Run σ → Run τ → Prop)).followed scene.graph other.graph
  rw [work, work]
  refine Paired.bind ?_ fun inputs middle twinMiddle across => ?_
  · rw [inputs, inputs, catalog]
    refine Paired.mapM _ (fun own _ run twin across => ?_) across
    refine (input_shadow detour follows relays inside across own).bind ?_
    exact fun e middle twinMiddle across => .ok (own.name, e) across
  · refine (note_lockstep respectful _ _ _ across).bind fun _ last twinLast across => ?_
    exact Host.apply_lockstep respectful accepts otherAccepts digits (.refl node) inputs output across

theorem step_shadow (found : scene.graph.find? node.id = some node)
    (resolves : ∀ node, True → ∀ asked run, other.Resolves (fun _ => True) node asked run
      ((twinRecur node asked).outcome run)) (asked : Option String) :
    Shadow (Detoured within ⟨relay.id, outlet⟩ ⟨origin.id, some socket⟩) ((scene.step recur node asked).outcome run)
      ((other.step twinRecur node asked).outcome twin) := by
  have member := (Graph.mem_of_find? found).1
  have otherMember := (Graph.mem_of_find? ((detour.shared _ inside).trans found)).1
  have detoured := across.related
  cases declared : node.output asked with
  | error cause =>
    rw [step_undeclared declared, step_undeclared declared]
    exact .error (.refl _)
  | ok output =>
    have state := detoured.state ⟨node.id, output⟩ inside
    by_cases visited : run.pass.state ⟨node.id, output⟩ = .unvisited
    · rw [visited] at state
      rw [step_visit declared visited, step_visit declared state]
      have tracked := across.tracked.enter detour.distinct member output
      have twinTracked := across.twinTracked.enter detour.otherDistinct otherMember output
      generalize framed : (⟨node.id, node.name, output⟩ : Frame) = frame at tracked twinTracked
      have key : frame.key = ⟨node.id, output⟩ := by rw [← framed]; rfl
      have different : frame.key ≠ ⟨relay.id, outlet⟩ := by
        intro same
        have ids : node.id = relay.id := congrArg OutputKey.node (key.symm.trans same)
        exact detour.outside (ids ▸ inside)
      rw [← key] at state
      have entered := detoured.enter different state
      -- The node in between is not open at the end: its source was not visited before.
      have worked : Shadow (fun run twin => Detoured within ⟨relay.id, outlet⟩ ⟨origin.id, some socket⟩ run twin ∧
          twin.pass.state frame.key = .inProgress ∧
          (frame.key = ⟨origin.id, some socket⟩ → twin.pass.state ⟨relay.id, outlet⟩ ≠ .inProgress))
          ((scene.work recur node output).outcome (run.enter frame))
          ((other.work twinRecur node output).outcome (twin.enter frame)) := by
        refine (work_shadow catalog detour accepts otherAccepts digits follows relays inside
          ⟨entered, tracked, twinTracked⟩ output).mono fun e _ ok across => ⟨across.related, ?_, ?_⟩
        · rw [work_opened resolves ok]
          simp [Run.enter]
        · intro same
          rw [Ne, work_opened resolves ok]
          have free := detoured.unvisited (same ▸ state)
          simp [Run.enter, Ne.symm different, free]
      exact worked.leave fun e _ _ ended => ended.1.leave different ended.2.1 ended.2.2 e
    · exact step_visited declared declared member otherMember across.tracked across.twinTracked detoured.quiet state
        (detoured.result _ inside) visited

omit inside in
theorem origin_shadow :
    Shadow (Agrees within) ((scene.step recur origin (some socket)).outcome run)
      ((other.step twinRecur origin (some socket)).outcome (twin.enter ⟨relay.id, relay.name, outlet⟩)) := by
  have member := (Graph.mem_of_find? detour.started).1
  have otherMember := (Graph.mem_of_find? ((detour.shared _ detour.above).trans detour.started)).1
  have entered : Agrees within run (twin.enter ⟨relay.id, relay.name, outlet⟩) :=
    across.related.toAgrees.enter_outside detour.outside
  have opened := across.twinTracked.enter detour.otherDistinct (Graph.mem_of_find? detour.member).1 outlet
  have state := entered.state ⟨origin.id, some socket⟩ detour.above
  by_cases visited : run.pass.state ⟨origin.id, some socket⟩ = .unvisited
  · rw [visited] at state
    rw [step_visit detour.declared visited, step_visit detour.declared state]
    have tracked := across.tracked.enter detour.distinct member (some socket)
    have twinTracked := opened.enter detour.otherDistinct otherMember (some socket)
    generalize framed : (⟨origin.id, origin.name, some socket⟩ : Frame) = own at tracked twinTracked
    have key : own.key = ⟨origin.id, some socket⟩ := by rw [← framed]; rfl
    have different : (⟨relay.id, outlet⟩ : OutputKey) ≠ own.key := by
      intro same
      have ids : relay.id = origin.id := congrArg OutputKey.node (same.trans key)
      exact detour.outside (ids ▸ detour.above)
    -- Both are under resolution from here on.
    have both : Detoured within ⟨relay.id, outlet⟩ ⟨origin.id, some socket⟩ (run.enter own)
        ((twin.enter ⟨relay.id, relay.name, outlet⟩).enter own) := by
      refine ⟨entered.enter own, ?_, ?_⟩
      · simp [Run.enter, Frame.key]
      · rw [← key]
        simp [Run.enter]
    have worked := work_shadow catalog detour accepts otherAccepts digits follows relays detour.above
      ⟨both, tracked, twinTracked⟩ (some socket)
    exact worked.leave fun e _ _ across => across.related.toAgrees.leave own e
  · have result := entered.result ⟨origin.id, some socket⟩ detour.above
    exact step_visited detour.declared detour.declared member otherMember across.tracked opened entered.quiet
      state result visited

end Step

section Resolve

variable (catalog : other.catalog = scene.catalog) (conforms : other.catalog.Conforms)
  (detour : scene.graph.Detour other.graph within relay outlet input origin socket) (accepts : scene.host.Accepts)
  (otherAccepts : other.host.Accepts) (digits : other.host.limits.digits = scene.host.limits.digits)

/-- Resolutions with and without the detour: of a node, and of the source with the node in between in its place. -/
structure Trails (scene : Scene σ) (other : Scene τ) (within : NodeId → Prop) (relay : Node) (outlet : Option String)
    (origin : Node) (socket : String) (depth room : Nat) : Prop where
  follows : ∀ node, scene.graph.find? node.id = some node → within node.id → ∀ asked run twin,
    Across scene.graph other.graph within relay outlet origin socket run twin →
    Shadow (Across scene.graph other.graph within relay outlet origin socket)
      ((scene.resolve room node asked).outcome run) ((other.resolve depth node asked).outcome twin)
  relays : ∀ output, relay.output (some output) = .ok outlet → ∀ run twin,
    Across scene.graph other.graph within relay outlet origin socket run twin →
    Shadow (Across scene.graph other.graph within relay outlet origin socket)
      ((scene.resolve room origin (some socket)).outcome run) ((other.resolve depth relay (some output)).outcome twin)

/-- The node in between is a Print node, and cannot show what comes out of its source. -/
def Refused (scene : Scene σ) (options : Options) (relay : Node) (left : Except Error Expression × Run σ)
    (right : Except Error Expression × Run τ) : Prop :=
  relay.kind = .print ∧ ∃ e cause, left.1 = .ok e ∧
    Source.render scene.host.limits.digits options e = .error cause ∧ right.1 = .error cause

include detour

theorem relay_leave {run : Run σ} {twin : Run τ} {name : String} (agrees : Agrees within run twin) {e : Expression}
    (state : twin.pass.state ⟨origin.id, some socket⟩ = .resolved)
    (result : twin.pass.result? ⟨origin.id, some socket⟩ = some e) :
    Detoured within ⟨relay.id, outlet⟩ ⟨origin.id, some socket⟩ run (twin.leave ⟨relay.id, name, outlet⟩ (.ok e)) := by
  have different : (⟨origin.id, some socket⟩ : OutputKey) ≠ ⟨relay.id, outlet⟩ := by
    intro same
    have ids : origin.id = relay.id := congrArg OutputKey.node same
    exact detour.outside (ids ▸ detour.above)
  refine ⟨agrees.leave_outside detour.outside e, ?_, ?_⟩
  · simp [Run.leave, Frame.key, Pass.result?_finish, different, state, result]
  · simp [Run.leave, Frame.key]

include conforms otherAccepts digits

theorem relay_visit {recur : Node → Option String → Resolving τ Expression} {answer : Except Error Expression × Run σ}
    {twin : Run τ} (shadow : Shadow (Agrees within) answer ((recur origin (some socket)).outcome twin))
    (settled : ∀ {e later}, (recur origin (some socket)).outcome twin = (.ok e, later) →
      later.pass.state ⟨origin.id, some socket⟩ = .resolved ∧ later.pass.result? ⟨origin.id, some socket⟩ = some e)
    (name : String) :
    let worked := (other.work recur relay outlet).outcome twin
    Shadow (Detoured within ⟨relay.id, outlet⟩ ⟨origin.id, some socket⟩) answer
        (worked.1, worked.2.leave ⟨relay.id, name, outlet⟩ worked.1) ∨
      scene.Refused answer.2.pass.options relay answer
        (worked.1, worked.2.leave ⟨relay.id, name, outlet⟩ worked.1) := by
  intro worked
  generalize answered : (recur origin (some socket)).outcome twin = reply at shadow
  cases shadow with
  | broken _ stop =>
    have failed : worked = _ := relay_failed detour conforms answered
    rw [failed]
    exact .inl (.broken _ stop)
  | error alike =>
    have failed : worked = _ := relay_failed detour conforms answered
    rw [failed]
    exact .inl (.error alike)
  | ok e agrees =>
    rcases relay_passed detour conforms otherAccepts answered with ⟨last, passed, quiet⟩ | ⟨print, cause, rendered, failed⟩
    · have same : worked = (.ok e, last) := passed
      obtain ⟨state, result⟩ := settled answered
      rw [same]
      refine .inl (.ok e (relay_leave detour (agrees.quiet (.refl _) quiet) ?_ ?_))
      · rw [quiet.state]
        exact state
      · unfold Pass.result? at result ⊢
        rw [quiet.memo]
        exact result
    · rw [digits, agrees.options] at rendered
      exact .inr ⟨print, e, cause, rfl, rendered, failed⟩

include catalog accepts

theorem relay_shadow {depth room : Nat} (fits : depth ≤ room)
    (trails : ∀ less < depth, ∀ more, less ≤ more → Trails scene other within relay outlet origin socket less more)
    {asked : Option String} (asks : relay.output asked = .ok outlet) {run : Run σ} {twin : Run τ}
    (across : Across scene.graph other.graph within relay outlet origin socket run twin) :
    Shadow (Detoured within ⟨relay.id, outlet⟩ ⟨origin.id, some socket⟩)
        ((scene.resolve room origin (some socket)).outcome run) ((other.resolve depth relay asked).outcome twin) ∨
      scene.Refused run.pass.options relay ((scene.resolve room origin (some socket)).outcome run)
        ((other.resolve depth relay asked).outcome twin) := by
  cases depth with
  | zero => exact .inl (.broken _ rfl)
  | succ depth =>
    obtain ⟨room, rfl⟩ : ∃ less, room = less + 1 := ⟨room - 1, by omega⟩
    have detoured := across.related
    have state := detoured.state ⟨origin.id, some socket⟩ detour.above
    have result := detoured.result ⟨origin.id, some socket⟩ detour.above
    show Shadow _ ((scene.step (scene.resolve room) origin (some socket)).outcome run)
        ((other.step (other.resolve depth) relay asked).outcome twin) ∨
      scene.Refused _ relay ((scene.step (scene.resolve room) origin (some socket)).outcome run)
        ((other.step (other.resolve depth) relay asked).outcome twin)
    cases visited : twin.pass.state ⟨relay.id, outlet⟩ with
    | resolved =>
      obtain ⟨done, e, known, same⟩ := detoured.settled visited
      obtain ⟨later, kept, quiet⟩ : ∃ later, (scene.step (scene.resolve room) origin (some socket)).outcome run =
          (.ok e, later) ∧ run.Quiet later := step_known detour.declared (state ▸ done) (result ▸ same)
      obtain ⟨twinLater, twinKept, twinQuiet⟩ : ∃ later, (other.step (other.resolve depth) relay asked).outcome twin =
          (.ok e, later) ∧ twin.Quiet later := step_known asks visited known
      rw [kept, twinKept]
      exact .inl (.ok e (detoured.quiet quiet twinQuiet))
    | inProgress =>
      have opened := state ▸ detoured.opened visited
      obtain ⟨path, met⟩ := across.tracked.met (Graph.mem_of_find? detour.started).1 opened
      obtain ⟨twinPath, twinMet⟩ := across.twinTracked.met (Graph.mem_of_find? detour.member).1 visited
      rw [step_active detour.declared opened, step_active asks visited, met, twinMet]
      exact .inl (.error (.failure rfl))
    | unvisited =>
      rw [step_visit asks visited]
      have resolves : scene.Resolves (fun _ => True) origin (some socket) run
          ((scene.resolve (room + 1) origin (some socket)).outcome run) :=
        scene.resolve_resolves (fun _ _ => trivial) (room + 1) trivial (some socket) run
      rw [← resolves.advances.options]
      refine relay_visit conforms detour otherAccepts digits ?_ ?_ relay.name
      · cases depth with
        | zero => exact .broken _ rfl
        | succ depth =>
          have ahead := trails depth (by omega) room (by omega)
          exact origin_shadow catalog detour accepts otherAccepts digits ahead.follows ahead.relays across
      · intro e later ok
        cases depth with
        | zero => cases ok
        | succ depth => exact step_settled detour.declared ok

theorem resolve_trails (depth room : Nat) (fits : depth ≤ room) :
    Trails scene other within relay outlet origin socket depth room := by
  induction depth using Nat.strongRecOn generalizing room with
  | ind depth ih =>
    constructor
    · intro node found inside asked run twin across
      cases depth with
      | zero => exact .broken _ rfl
      | succ depth =>
        obtain ⟨room, rfl⟩ : ∃ less, room = less + 1 := ⟨room - 1, by omega⟩
        have ahead := ih depth (by omega) room (by omega)
        refine resolve_followed across.tracked across.twinTracked ?_
        exact step_shadow catalog detour accepts otherAccepts digits ahead.follows ahead.relays inside across found
          (fun node _ asked run => other.resolve_resolves (fun _ _ => trivial) depth trivial asked run) asked
    · intro output declared run twin across
      refine resolve_followed across.tracked across.twinTracked ?_
      rcases relay_shadow catalog conforms detour accepts otherAccepts digits fits ih declared across with
        shadow | ⟨print, _⟩
      · exact shadow
      · -- A node without outputs is not in between.
        exact absurd print (NodeKind.not_print_of_hasOutput (output_some declared).2)

end Resolve

end Scene

end ShaderGraph
