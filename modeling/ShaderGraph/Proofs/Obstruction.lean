import ShaderGraph.Proofs.Graph.Upstream
import ShaderGraph.Proofs.SourceLines

namespace ShaderGraph

open Relation Shading

namespace Graph

/-- Every path upwards from a node ends, and no input on the way lacks a link that it needs. -/
def Clear (graph : Graph) (catalog : Catalog) (id : NodeId) : Prop :=
  Acc graph.Feeds id ∧ ¬graph.GapAbove catalog id

theorem Clear.not_cyclic {graph : Graph} {catalog : Catalog} {id : NodeId} (clear : graph.Clear catalog id) :
    ¬graph.CyclicAbove id :=
  not_cyclicAbove_of_acc clear.1

end Graph

namespace Scene

variable {σ : Type} {scene : Scene σ} {options : Options}

theorem Fed.of_socket {memo : List (OutputKey × Expression)} {node : Node} {sockets : List InputSocket}
    {inputs : Inputs} (fed : scene.Fed memo node sockets inputs) {socket : InputSocket} (member : socket ∈ sockets) :
    ∃ e, scene.graph.Feed memo node socket e := by
  induction fed with
  | nil => simp at member
  | cons head _ ih =>
    rcases List.mem_cons.mp member with rfl | member
    · exact ⟨_, head.2⟩
    · exact ih member

theorem Fed.lookup {memo : List (OutputKey × Expression)} {node : Node} {sockets : List InputSocket}
    {inputs : Inputs} (fed : scene.Fed memo node sockets inputs) {socket : InputSocket} (member : socket ∈ sockets) :
    (inputs.lookup socket.name).isSome := by
  induction fed with
  | nil => simp at member
  | @cons first entry _ _ head _ ih =>
    rw [List.lookup_cons]
    rcases List.mem_cons.mp member with rfl | member
    · simp [head.1]
    · split
      · rfl
      · exact ih member

theorem Fed.of_link (sound : scene.graph.Sound) (conforms : scene.catalog.Conforms)
    {memo : List (OutputKey × Expression)} {node : Node} (inside : node ∈ scene.graph.nodes) {inputs : Inputs}
    (fed : scene.Fed memo node (scene.catalog node.kind).inputs inputs) {link : Link} (linked : link ∈ scene.graph.links)
    (into : link.target = node.id) : ∃ e, (⟨link.source, some link.output⟩, e) ∈ memo := by
  obtain ⟨declared, known, named⟩ := sound.socket inside linked into
  obtain ⟨own, ownMember, ownName, _⟩ := conforms.socket known
  have joined : scene.graph.inputLink? node.id own.name = some link := by
    rw [ownName, named, ← into]
    exact Graph.inputLink?_of_mem sound linked
  obtain ⟨e, feed⟩ := fed.of_socket ownMember
  cases feed with
  | linked otherJoined found _ entry =>
    rw [joined] at otherJoined
    cases otherJoined
    rw [(Graph.mem_of_find? found).2] at entry
    exact ⟨e, entry⟩
  | zero dangling _ =>
    obtain ⟨_, _, found, _⟩ := sound.source joined
    rw [dangling link joined] at found
    cases found

theorem Fed.clear (sound : scene.graph.Sound) (conforms : scene.catalog.Conforms)
    {memo : List (OutputKey × Expression)} {node : Node} (inside : node ∈ scene.graph.nodes) {inputs : Inputs}
    (fed : scene.Fed memo node (scene.catalog node.kind).inputs inputs)
    (clear : ∀ entry ∈ memo, scene.graph.Clear scene.catalog entry.1.node) :
    scene.graph.Clear scene.catalog node.id := by
  have source {id : NodeId} (feeds : scene.graph.Feeds id node.id) : scene.graph.Clear scene.catalog id := by
    obtain ⟨link, linked, rfl, into⟩ := feeds
    obtain ⟨e, known⟩ := fed.of_link sound conforms inside linked into
    exact clear _ known
  refine ⟨⟨_, fun id feeds => (source feeds).1⟩, ?_⟩
  rintro ⟨gap, gapMember, upstream, needed, neededMember, required, unlinked⟩
  -- The gap is at the node itself, or upstream of a node that feeds it.
  rcases ReflTransGen.cases_tail upstream with same | ⟨id, above, feeds⟩
  · have one : gap = node := List.inj_on_of_nodup_map sound.distinct gapMember inside same.symm
    subst one
    obtain ⟨e, feed⟩ := fed.of_socket neededMember
    cases feed with
    | linked joined _ _ _ =>
      rw [unlinked] at joined
      cases joined
    | zero _ optional =>
      rw [optional unlinked] at required
      cases required
  · exact (source feeds).2 ⟨gap, gapMember, above, needed, neededMember, required, unlinked⟩

theorem settles_clear (sound : scene.graph.Sound) (conforms : scene.catalog.Conforms) {record later : Record}
    (settles : scene.Settles (· ∈ scene.graph.nodes) options record later)
    (clear : ∀ entry ∈ record.memo, scene.graph.Clear scene.catalog entry.1.node) :
    ∀ entry ∈ later.memo, scene.graph.Clear scene.catalog entry.1.node := by
  cases settles with
  | output inside declared fed derived shown =>
    exact List.forall_mem_cons.mpr ⟨fed.clear sound conforms inside clear, clear⟩

theorem resolve_clear (sound : scene.graph.Sound) (conforms : scene.catalog.Conforms) (depth : Nat) {node : Node}
    (inside : node ∈ scene.graph.nodes) (asked : Option String) {run : Run σ}
    (clear : ∀ entry ∈ run.pass.memo, scene.graph.Clear scene.catalog entry.1.node) {e : Expression}
    (ok : ((scene.resolve depth node asked).outcome run).1 = .ok e) :
    (∃ socket, node.output asked = .ok socket) ∧ scene.graph.Clear scene.catalog node.id := by
  have resolves : scene.Resolves (· ∈ scene.graph.nodes) node asked run ((scene.resolve depth node asked).outcome run) :=
    scene.resolve_resolves (fun _ member => member) depth inside asked run
  obtain ⟨socket, declared, kept⟩ := resolves.kept e ok
  have after := resolves.advances.progress.preserves
    (fun record => ∀ entry ∈ record.memo, scene.graph.Clear scene.catalog entry.1.node) (settles_clear sound conforms)
    clear
  exact ⟨⟨socket, declared⟩, after _ kept⟩

end Scene

def Host.Accepts {σ : Type} (host : Host σ) : Prop :=
  ∀ emission world, ∃ later, (host.deliver emission).outcome world = (.ok (), later)

theorem Host.recorder_accepts (limits : Limits) : (Host.recorder limits).Accepts := fun _ _ => ⟨_, rfl⟩

theorem Source.render_ok {digits : Option Nat} {options : Options} (valid : options.Valid) (fits : options.Fits digits)
    {e : Expression} {body : List Binding} (statements : e.statements = texts body) :
    ∃ source, Source.render digits options e = .ok source := by
  have lines : e.statements = (body.map Binding.text).map .text := by
    rw [statements, texts, List.map_map]
    rfl
  obtain ⟨alpha, _, _, written⟩ := Source.lines_eq valid fits lines
  exact ⟨_, by rw [Source.render, written]; rfl⟩

theorem Expression.Typed.render {digits : Option Nat} {options : Options} (valid : options.Valid) {e : Expression}
    {names : NameTable} {types : Scope Shape} (typed : e.Typed names types) :
    options.Fits digits ∧ (∃ source, Source.render digits options e = .ok source) ∨
      ¬options.Fits digits ∧ Overlong digits (Source.render digits options e) := by
  by_cases fits : options.Fits digits
  · obtain ⟨⟨body, backed⟩, _⟩ := typed
    exact .inl ⟨fits, Source.render_ok valid fits backed.statements⟩
  · exact .inr ⟨fits, Source.render_overlong fits e⟩

theorem Expression.Typed.plain {e : Expression} {names : NameTable} {types : Scope Shape}
    (typed : e.Typed names types) : NodeScope.Plain e := by
  obtain ⟨⟨body, backed⟩, _⟩ := typed
  simp [NodeScope.Plain, backed.statements, texts, Value.isList]

namespace Host

variable {σ : Type} {host : Host σ}

theorem announceFrom_outcome (accepts : host.Accepts) (node : Node) (e : Expression) (run : Run σ) :
    ((host.announceFrom node e).outcome run).1 =
      if node.kind = .print then (Source.render host.limits.digits run.pass.options e).map (fun _ => ()) else .ok () := by
  rw [announceFrom]
  split
  · rw [announce, Step.outcome_bind_ok (Step.outcome_get run)]
    cases Source.render host.limits.digits run.pass.options e with
    | error cause => rfl
    | ok source =>
      rw [Step.outcome_bind_ok (Step.outcome_ofExcept_ok ..), Step.outcome_bind_ok (Resolving.outcome_outside ..), emit,
        Resolving.onPass, Step.outcome_bind_ok (Step.outcome_modify ..), Resolving.outcome_outside]
      obtain ⟨later, delivered⟩ := accepts ⟨node.name, source⟩ _
      rw [delivered]
      rfl
  · rfl

theorem apply_outcome (accepts : host.Accepts) {node : Node} {inputs : Inputs} {output : Option String} {run : Run σ}
    (supplied : NodeScope.Supplied ⟨node, inputs, output, run.pass.options⟩) :
    ∃ result, NodeScope.Derives ⟨node, inputs, output, run.pass.options⟩ run.pass.names result ∧
      ((host.apply node inputs output).outcome run).1 =
        if node.kind = .print then
          (Source.render host.limits.digits run.pass.options result.1).map (fun _ => result.1)
        else .ok result.1 := by
  obtain ⟨result, expressed, derived⟩ := NodeScope.express_ok supplied run.pass.names
  refine ⟨result, derived, ?_⟩
  have naming := Resolving.outcome_naming (NodeScope.express ⟨node, inputs, output, run.pass.options⟩) run
  rw [expressed] at naming
  have announced := announceFrom_outcome accepts node result.1 (run.named result.2)
  rw [apply, Step.outcome_bind_ok (Step.outcome_get run), Step.outcome_bind_ok naming, Step.outcome_bind]
  generalize (host.announceFrom node result.1).outcome (run.named result.2) = ended at announced ⊢
  obtain ⟨outcome, later⟩ := ended
  simp only [Run.named] at announced
  subst announced
  by_cases print : node.kind = .print
  · rw [if_pos print, if_pos print]
    cases Source.render host.limits.digits run.pass.options result.1 <;> rfl
  · rw [if_neg print, if_neg print]
    rfl

end Host

namespace Scene

variable {σ : Type} {scene : Scene σ} {options : Options}

inductive Obstructed (scene : Scene σ) (options : Options) (node : Node) : Error → Prop
  | nesting : scene.Obstructed options node .nesting
  | cycle {name : String} {socket : Option String} {path : List Waypoint} (cyclic : scene.graph.CyclicAbove node.id) :
      scene.Obstructed options node (.failure (.cycle name socket path))
  | gap {name input : String} (gap : scene.graph.GapAbove scene.catalog node.id) :
      scene.Obstructed options node (.failure (.linkRequired name input))
  | overlong {limit : Nat} (print : node.kind = .print) (clear : scene.graph.Clear scene.catalog node.id)
      (bound : scene.host.limits.digits = some limit) (beyond : ¬options.Fits scene.host.limits.digits) :
      scene.Obstructed options node (.overlong limit)

theorem Obstructed.down {source target : Node} {cause : Error} (obstructed : scene.Obstructed options source cause)
    (other : source.kind ≠ .print) (feeds : scene.graph.Feeds source.id target.id) :
    scene.Obstructed options target cause := by
  cases obstructed with
  | nesting => exact .nesting
  | cycle cyclic => exact .cycle (cyclic.down (.single feeds))
  | gap gap => exact .gap (gap.down (.single feeds))
  | overlong print => exact absurd print other

end Scene

/-- What is marked as in progress is on the stack, under the name of its node. -/
def Run.Tracked {σ : Type} (graph : Graph) (run : Run σ) : Prop :=
  ∀ node ∈ graph.nodes, ∀ socket, run.pass.state ⟨node.id, socket⟩ = .inProgress →
    (node.name, socket) ∈ run.stack.map Frame.waypoint

namespace Run.Tracked

variable {σ : Type} {graph : Graph} {run later : Run σ}

theorem fresh (options : Options) (world : σ) : Run.Tracked graph ⟨.fresh options, [], world⟩ := by
  intro node inside socket active
  simp [Pass.fresh, Pass.state] at active

theorem advance {scene : Scene σ} {allowed : Node → Prop} (tracked : run.Tracked graph)
    (advances : scene.Advances allowed false run later) : later.Tracked graph := by
  intro node inside socket active
  rw [advances.stack]
  exact tracked node inside socket (advances.closed rfl _ active)

theorem enter (distinct : (graph.nodes.map Node.id).Nodup) (tracked : run.Tracked graph) {node : Node}
    (inside : node ∈ graph.nodes) (socket : Option String) :
    (run.enter ⟨node.id, node.name, socket⟩).Tracked graph := by
  intro other otherInside output active
  by_cases same : (⟨other.id, output⟩ : OutputKey) = ⟨node.id, socket⟩
  · obtain ⟨id, rfl⟩ := OutputKey.mk.inj same
    have one : other = node := List.inj_on_of_nodup_map distinct otherInside inside id
    subst one
    exact List.mem_cons_self
  · have before : run.pass.state ⟨other.id, output⟩ = .inProgress := by
      simpa [Run.enter, Frame.key, same] using active
    exact List.mem_cons_of_mem _ (tracked other otherInside output before)

theorem met (tracked : run.Tracked graph) {node : Node} (inside : node ∈ graph.nodes) {socket : Option String}
    (active : run.pass.state ⟨node.id, socket⟩ = .inProgress) :
    ∃ path, Frame.met run.stack ⟨node.id, node.name, socket⟩ = .failure (.cycle node.name socket path) :=
  ⟨_, if_pos (tracked node inside socket active)⟩

end Run.Tracked

namespace Scene

variable {σ : Type} {scene : Scene σ} {options : Options}

/-- A run in which everything settled has types and nothing in its way, what is marked as resolved has a result, and what
    is in progress is on the stack. -/
structure Ready (scene : Scene σ) (options : Options) (run : Run σ) : Prop where
  same : run.pass.options = options
  coherent : run.pass.Coherent
  typed : run.pass.record.Typed options
  clear : ∀ entry ∈ run.pass.memo, scene.graph.Clear scene.catalog entry.1.node
  tracked : run.Tracked scene.graph

theorem ready_fresh (scene : Scene σ) (options : Options) (world : σ) :
    scene.Ready options ⟨.fresh options, [], world⟩ :=
  ⟨rfl, Pass.coherent_fresh options, Record.typed_empty options, by simp [Pass.fresh], .fresh options world⟩

theorem Ready.enter (sound : scene.graph.Sound) {run : Run σ} (ready : scene.Ready options run) {node : Node}
    (inside : node ∈ scene.graph.nodes) {socket : Option String}
    (unvisited : run.pass.state ⟨node.id, socket⟩ = .unvisited) :
    scene.Ready options (run.enter ⟨node.id, node.name, socket⟩) :=
  ⟨ready.same, enter_coherent unvisited ready.coherent, ready.typed, ready.clear,
    ready.tracked.enter sound.distinct inside socket⟩

section Work

variable (sound : scene.graph.Sound) (conforms : scene.catalog.Conforms) (valid : options.Valid)

include sound conforms valid

theorem Ready.advance {run later : Run σ} (ready : scene.Ready options run)
    (advances : scene.Advances (· ∈ scene.graph.nodes) false run later) : scene.Ready options later := by
  have progress := advances.progress
  rw [ready.same] at progress
  refine ⟨advances.options.trans ready.same, advances.coherent ready.coherent, ?_, ?_, ready.tracked.advance advances⟩
  · refine progress.preserves (Record.Typed · options) (fun settles => ?_) ready.typed
    exact settles_typed valid (settles.imp sound.accepted)
  · exact progress.preserves (fun record => ∀ entry ∈ record.memo, scene.graph.Clear scene.catalog entry.1.node)
      (settles_clear sound conforms) ready.clear

theorem supplied_of_fed {node : Node} (inside : node ∈ scene.graph.nodes) {asked socket : Option String}
    (declared : node.output asked = .ok socket) {run : Run σ} (ready : scene.Ready options run) {inputs : Inputs}
    (fed : scene.Fed run.pass.memo node (scene.catalog node.kind).inputs inputs) :
    NodeScope.Supplied ⟨node, inputs, socket, run.pass.options⟩ ∧
      ∀ result, NodeScope.Derives ⟨node, inputs, socket, run.pass.options⟩ run.pass.names result →
        ∃ names types, result.1.Typed names types := by
  obtain ⟨types, names, entries⟩ := ready.typed
  have given : ∀ entry ∈ inputs, entry.2.Typed run.pass.names types := fed.typed entries
  have accepted := sound.accepted node inside
  refine ⟨⟨?_, ?_, ?_⟩, ?_⟩
  · intro socket known
    obtain ⟨own, ownMember, ownName, _⟩ := conforms.socket known
    obtain ⟨e, found⟩ := Option.isSome_iff_exists.mp (fed.lookup ownMember)
    rw [ownName] at found
    exact ⟨e, found, (given _ (mem_of_lookup found)).plain⟩
  · intro some
    cases asked with
    | none =>
      simp only [Node.output, Except.ok.injEq] at declared
      rw [← declared]
      simpa [Template.defaultOutput, NodeKind.template] using some
    | some output =>
      rw [(output_some declared).1]
      rfl
  · intro kind
    obtain ⟨x, _, number⟩ := accepted.amount kind
    exact ⟨x, by rw [number]; rfl⟩
  · intro result derived
    rw [ready.same] at derived
    obtain ⟨_, _, _, _, typed⟩ := derived.typed valid accepted (Node.output_mem declared) names given
    exact ⟨_, _, typed⟩

variable {recur : Node → Option String → Resolving σ Expression}
  (resolves : ∀ node, node ∈ scene.graph.nodes → ∀ asked run,
    scene.Resolves (· ∈ scene.graph.nodes) node asked run ((recur node asked).outcome run))

include resolves in
theorem Ready.gathered {run later : Run σ} (ready : scene.Ready options run) {node : Node} {inputs : Inputs}
    (gather : (scene.inputs recur node).outcome run = (.ok inputs, later)) :
    scene.Ready options later ∧ scene.Fed later.pass.memo node (scene.catalog node.kind).inputs inputs := by
  have gathered := scene.inputs_advances resolves (fun _ => id) node (scene.catalog node.kind).inputs run
  rw [Scene.inputs] at gather
  simp only [gather] at gathered
  exact ⟨ready.advance sound conforms valid gathered.1, gathered.2 inputs rfl⟩

variable
  (obstructed : ∀ node ∈ scene.graph.nodes, ∀ asked socket, node.output asked = .ok socket → ∀ run,
    scene.Ready options run → (∀ key, run.pass.state key = .inProgress → TransGen scene.graph.Feeds node.id key.node) →
    ∀ cause, ((recur node asked).outcome run).1 = .error cause → scene.Obstructed options node cause)

include obstructed

omit conforms valid in
theorem input_obstructed {node : Node} (inside : node ∈ scene.graph.nodes) {socket : InputSocket}
    (declared : socket ∈ (scene.catalog node.kind).inputs) {run : Run σ} (ready : scene.Ready options run)
    (above : ∀ key, run.pass.state key = .inProgress → scene.graph.Upstream node.id key.node) {cause : Error}
    (failed : ((scene.input recur node socket).outcome run).1 = .error cause) : scene.Obstructed options node cause := by
  simp only [input] at failed
  split at failed
  · rename_i link joined
    obtain ⟨source, sourceInside, found, sourceId, sourceDeclared⟩ := sound.source joined
    have feeds : scene.graph.Feeds source.id node.id := sourceId ▸ Graph.feeds_of_inputLink? joined
    rw [found] at failed
    have output : source.output (some link.output) = .ok (some link.output) := by
      simp [Node.output, sourceDeclared]
    have inner := obstructed source sourceInside _ _ output run ready
      (fun key active => TransGen.head' feeds (above key active)) cause failed
    exact inner.down (NodeKind.not_print_of_hasOutput sourceDeclared) feeds
  · rename_i unlinked
    split at failed
    · rename_i required
      cases failed
      exact .gap ⟨node, inside, .refl, socket, declared, required, unlinked⟩
    · cases failed

include resolves

theorem inputs_obstructed {node : Node} (inside : node ∈ scene.graph.nodes) (sockets : List InputSocket)
    (declared : ∀ socket ∈ sockets, socket ∈ (scene.catalog node.kind).inputs) {run : Run σ}
    (ready : scene.Ready options run)
    (above : ∀ key, run.pass.state key = .inProgress → scene.graph.Upstream node.id key.node) {cause : Error}
    (failed : (Step.outcome (sockets.mapM (fun socket => do
      return (socket.name, ← scene.input recur node socket))) run).1 = .error cause) :
    scene.Obstructed options node cause := by
  induction sockets generalizing run with
  | nil => cases failed
  | cons socket sockets ih =>
    have advances := (scene.input_advances resolves (fun _ => id) node socket run).1
    simp only [List.mapM_cons, bind_assoc, pure_bind] at failed
    rw [Step.outcome_bind] at failed
    rcases first : (scene.input recur node socket).outcome run with ⟨stopped | e, middle⟩
    · rw [first] at failed
      cases failed
      exact input_obstructed sound obstructed inside (declared socket (by simp)) ready above (by rw [first])
    · rw [first] at failed advances
      have rest := ih (fun other member => declared other (by simp [member]))
        (ready.advance sound conforms valid advances) (fun key active => above key (advances.closed rfl key active))
      simp only at failed
      rw [Step.outcome_bind] at failed
      rcases second : Step.outcome (sockets.mapM _) middle with ⟨stopped | inputs, later⟩
      · rw [second] at failed
        rw [second] at rest
        exact rest failed
      · rw [second] at failed
        cases failed

theorem work_obstructed (accepts : scene.host.Accepts) {node : Node} (inside : node ∈ scene.graph.nodes)
    {asked socket : Option String} (declared : node.output asked = .ok socket) {run : Run σ}
    (ready : scene.Ready options run)
    (above : ∀ key, run.pass.state key = .inProgress → scene.graph.Upstream node.id key.node) {cause : Error}
    (failed : ((scene.work recur node socket).outcome run).1 = .error cause) : scene.Obstructed options node cause := by
  rcases gather : (scene.inputs recur node).outcome run with ⟨stopped | inputs, later⟩
  · rw [work_failed gather] at failed
    cases failed
    exact inputs_obstructed sound conforms valid resolves obstructed inside _ (fun _ member => member) ready above
      (congrArg Prod.fst gather)
  · obtain ⟨noted, quiet, worked⟩ : ∃ noted, later.Quiet noted ∧ (scene.work recur node socket).outcome run =
        (scene.host.apply node inputs socket).outcome noted := work_gathered gather
    obtain ⟨before, fed⟩ := ready.gathered sound conforms valid resolves gather
    have after := before.advance sound conforms valid (advances_of_quiet quiet)
    rw [← quiet.memo] at fed
    obtain ⟨supplied, typed⟩ := supplied_of_fed sound conforms valid inside declared after fed
    obtain ⟨result, derived, applied⟩ := Host.apply_outcome accepts supplied
    rw [worked, applied] at failed
    split at failed
    · rename_i print
      obtain ⟨names, types, own⟩ := typed result derived
      rw [after.same] at failed
      rcases own.render valid with ⟨_, source, rendered⟩ | ⟨beyond, limit, bound, stopped⟩
      · rw [rendered] at failed
        cases failed
      · rw [stopped] at failed
        cases failed
        exact .overlong print (fed.clear sound conforms inside after.clear) bound beyond
    · cases failed

end Work

/-- A resolution of a declared output that fails is nested too deeply, or meets a cycle or a gap upstream, or has to show
    what cannot be written. The outputs under resolution are all reached from the node, so an output that is met again
    lies on a cycle. -/
theorem resolve_obstructed (sound : scene.graph.Sound) (conforms : scene.catalog.Conforms) (valid : options.Valid)
    (accepts : scene.host.Accepts) (depth : Nat) :
    ∀ node ∈ scene.graph.nodes, ∀ asked socket, node.output asked = .ok socket → ∀ run,
      scene.Ready options run →
      (∀ key, run.pass.state key = .inProgress → TransGen scene.graph.Feeds node.id key.node) →
      ∀ cause, ((scene.resolve depth node asked).outcome run).1 = .error cause →
        scene.Obstructed options node cause := by
  induction depth with
  | zero =>
    rintro node inside asked socket declared run ready above cause ⟨rfl⟩
    exact .nesting
  | succ depth ih =>
    intro node inside asked socket declared run ready above cause failed
    rw [resolve] at failed
    cases visited : run.pass.state ⟨node.id, socket⟩ with
    | resolved =>
      obtain ⟨e, known⟩ := ready.coherent.result? visited
      obtain ⟨later, same, _⟩ : ∃ later, (scene.step (scene.resolve depth) node asked).outcome run = (.ok e, later) ∧
          run.Quiet later := step_known declared visited known
      rw [same] at failed
      cases failed
    | inProgress =>
      obtain ⟨path, met⟩ := ready.tracked.met inside visited
      rw [step_active declared visited, met] at failed
      cases failed
      exact .cycle ⟨node.id, .refl, above ⟨node.id, socket⟩ visited⟩
    | unvisited =>
      rw [step_visit declared visited] at failed
      refine work_obstructed sound conforms valid (fun node inside asked run =>
        scene.resolve_resolves (fun _ => id) depth inside asked run) ih accepts inside declared
        (ready.enter sound inside visited) ?_ failed
      intro key active
      by_cases own : key = ⟨node.id, socket⟩
      · rw [own]
        exact .refl
      · have before : run.pass.state key = .inProgress := by simpa [Run.enter, Frame.key, own] using active
        exact (above key before).to_reflTransGen

end Scene

end ShaderGraph
