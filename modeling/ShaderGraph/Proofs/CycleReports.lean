import Mathlib.Data.List.Chain
import ShaderGraph.Proofs.History

namespace ShaderGraph

open Relation

variable {σ : Type}

namespace Graph

def Leads (graph : Graph) (source target : Output) : Prop :=
  source.1 ∈ graph.nodes ∧ target.1 ∈ graph.nodes ∧
    ∃ link ∈ graph.links, link.source = source.1.id ∧ source.2 = some link.output ∧ link.target = target.1.id

def Names (graph : Graph) (root : NodeId) (point : Waypoint) : Prop :=
  ∃ node ∈ graph.nodes, node.name = point.1 ∧ graph.Upstream node.id root ∧
    ∃ output ∈ node.kind.outputs, point.2 = some output

def Connects (graph : Graph) (target source : Waypoint) : Prop :=
  ∃ link ∈ graph.links, ∃ origin ∈ graph.nodes, ∃ receiver ∈ graph.nodes,
    origin.id = link.source ∧ origin.name = source.1 ∧ source.2 = some link.output ∧
      receiver.id = link.target ∧ receiver.name = target.1

/-- A path against the direction of links from an output of a node back to it. -/
structure Cycle (graph : Graph) (root : NodeId) (name : String) (socket : Option String) (path : List Waypoint) :
    Prop where
  long : 2 ≤ path.length
  first : path.head? = some (name, socket)
  last : path.getLast? = some (name, socket)
  distinct : path.dropLast.Nodup
  named : ∀ point ∈ path, graph.Names root point
  linked : path.IsChain graph.Connects

structure Trail (graph : Graph) (root : NodeId) (outputs : List Output) : Prop where
  linked : outputs.IsChain graph.Leads
  upstream : ∀ output ∈ outputs, graph.Upstream output.1.id root

variable {graph : Graph} {root : NodeId} {source target : Output}

theorem Trail.tail {outputs : List Output} (trail : graph.Trail root (source :: outputs)) : graph.Trail root outputs :=
  ⟨trail.linked.tail, fun output member => trail.upstream output (List.mem_cons_of_mem _ member)⟩

theorem Trail.extend {outputs : List Output} (trail : graph.Trail root (target :: outputs))
    (leads : graph.Leads source target) : graph.Trail root (source :: target :: outputs) := by
  refine ⟨List.isChain_cons_cons.mpr ⟨leads, trail.linked⟩, ?_⟩
  intro output member
  rcases List.mem_cons.mp member with rfl | old
  · obtain ⟨_, _, link, inside, start, _, into⟩ := leads
    have feeds : graph.Feeds output.1.id target.1.id := ⟨link, inside, start, into⟩
    exact .head feeds (trail.upstream target List.mem_cons_self)
  · exact trail.upstream output old

theorem Leads.connects (leads : graph.Leads source target) :
    graph.Connects target.frame.waypoint source.frame.waypoint := by
  obtain ⟨inside, other, link, member, start, output, into⟩ := leads
  exact ⟨link, member, source.1, inside, target.1, other, start.symm, rfl, output, into.symm, rfl⟩

theorem Leads.names (sound : graph.Sound) (leads : graph.Leads source target) (upstream : graph.Upstream source.1.id root) :
    graph.Names root source.frame.waypoint := by
  obtain ⟨inside, _, link, member, start, output, _⟩ := leads
  obtain ⟨node, nodeInside, _, _, same, _, declared, _⟩ := sound.joins link member
  have one : node = source.1 := List.inj_on_of_nodup_map sound.distinct nodeInside inside (same.trans start)
  rw [one] at declared
  exact ⟨source.1, inside, rfl, upstream, link.output, by simpa [Template.hasOutput, NodeKind.template] using declared,
    output⟩

theorem Sound.print_upstream (sound : graph.Sound) {node : Node} (inside : node ∈ graph.nodes)
    (print : node.kind = .print) (upstream : graph.Upstream node.id root) : node.id = root := by
  rcases ReflTransGen.cases_head upstream with same | ⟨_, ⟨link, member, start, _⟩, _⟩
  · exact same
  · obtain ⟨source, sourceInside, _, _, same, _, declared, _⟩ := sound.joins link member
    have one : source = node := List.inj_on_of_nodup_map sound.distinct sourceInside inside (same.trans start)
    exact absurd (one ▸ print) (NodeKind.not_print_of_hasOutput declared)

theorem leads_of_mem_loop {focus : Output} {newer : List Output}
    (chain : (focus :: (newer ++ [focus])).IsChain graph.Leads) {output : Output} (member : output ∈ focus :: newer) :
    ∃ next, graph.Leads output next := by
  obtain ⟨front, back, split⟩ := List.append_of_mem member
  have whole : focus :: (newer ++ [focus]) = front ++ output :: (back ++ [focus]) := by
    rw [← List.cons_append, split, List.append_assoc, List.cons_append]
  rw [whole] at chain
  have rest := (List.isChain_split.mp chain).2
  cases back with
  | nil => exact ⟨focus, (List.isChain_cons_cons.mp rest).1⟩
  | cons next back => exact ⟨next, (List.isChain_cons_cons.mp rest).1⟩

theorem cycle_of_loop (sound : graph.Sound) {focus : Output} {newer : List Output}
    (chain : (focus :: (newer ++ [focus])).IsChain graph.Leads)
    (upstream : ∀ output ∈ focus :: newer, graph.Upstream output.1.id root)
    (distinct : (((newer ++ [focus]).map Output.frame).map Frame.waypoint).Nodup) :
    graph.Cycle root focus.1.name focus.2
      (((focus :: (newer ++ [focus])).map Output.frame).map Frame.waypoint).reverse := by
  constructor
  · simp
  · simp [Output.frame, Frame.waypoint]
  · rw [List.getLast?_reverse]
    rfl
  · rw [List.map_cons, List.map_cons, List.reverse_cons, List.dropLast_concat, List.nodup_reverse]
    exact distinct
  · intro point member
    rw [List.mem_reverse, List.map_map, List.mem_map] at member
    obtain ⟨output, inside, rfl⟩ := member
    have among : output ∈ focus :: newer := by
      simp only [List.mem_cons, List.mem_append, List.not_mem_nil, or_false] at inside ⊢
      tauto
    obtain ⟨next, leads⟩ := leads_of_mem_loop chain among
    exact leads.names sound (upstream output among)
  · rw [List.isChain_reverse, List.isChain_map, List.isChain_map]
    exact chain.imp fun source target => Leads.connects

end Graph

theorem cyclePath_split {newer older : List Frame} {frame : Frame}
    (distinct : ((newer ++ frame :: older).map Frame.waypoint).Nodup) :
    cyclePath (newer ++ frame :: older) frame = ((frame :: (newer ++ [frame])).map Frame.waypoint).reverse := by
  have before : ∀ point ∈ older.reverse.map Frame.waypoint, (point != frame.waypoint) = true := by
    intro point member
    rw [List.map_append, List.map_cons, List.nodup_append] at distinct
    rw [bne_iff_ne]
    intro same
    apply (List.nodup_cons.mp distinct.2.1).1
    rw [← same]
    simpa using member
  have turned : (newer ++ frame :: older).reverse.map Frame.waypoint =
      older.reverse.map Frame.waypoint ++ frame.waypoint :: newer.reverse.map Frame.waypoint := by
    simp
  rw [cyclePath, turned, List.dropWhile_append_of_pos before]
  simp

theorem Orderly.cycle {graph : Graph} {admitted : Node → Prop} {left : List OutputKey} {opened : List Output}
    {run : Run σ} (built : graph.Built) (members : ∀ node, admitted node → node ∈ graph.nodes)
    (orderly : Orderly graph admitted left opened run) {node : Node} (inside : node ∈ graph.nodes) {socket : Option String}
    (met : (node.name, socket) ∈ run.stack.map Frame.waypoint) {root : NodeId}
    (trail : graph.Trail root ((node, socket) :: opened)) :
    graph.Cycle root node.name socket (cyclePath run.stack ⟨node.id, node.name, socket⟩) := by
  obtain ⟨distinct, named⟩ := orderly.waypoints built members
  have focused : (node, socket) ∈ opened := by
    rw [named node inside, orderly.stack, List.map_map, List.mem_map] at met
    obtain ⟨output, member, same⟩ := met
    obtain ⟨id, socket⟩ := OutputKey.mk.inj same
    have one : output.1 = node :=
      List.inj_on_of_nodup_map built.sound.distinct (members _ (orderly.proper output member).1) inside id
    rwa [← show output = (node, _) from Prod.ext one socket]
  -- The stack is cut at the first frame with this name, and no frame below has the same.
  obtain ⟨newer, older, split⟩ := List.append_of_mem focused
  subst split
  have stack : run.stack = newer.map Output.frame ++ Output.frame (node, socket) :: older.map Output.frame := by
    rw [orderly.stack, List.map_append, List.map_cons]
  rw [stack] at distinct
  have path : cyclePath run.stack ⟨node.id, node.name, socket⟩ =
      ((((node, socket) :: (newer ++ [(node, socket)])).map Output.frame).map Frame.waypoint).reverse := by
    have split := cyclePath_split distinct
    rw [stack]
    simp only [List.map_cons, List.map_append, List.map_nil] at split ⊢
    exact split
  rw [path]
  have loop : ((node, socket) :: (newer ++ [(node, socket)])).IsChain graph.Leads := by
    have linked := trail.linked
    rw [← List.cons_append] at linked ⊢
    exact (List.isChain_split.mp linked).1
  have above (output : Output) (member : output ∈ (node, socket) :: newer) : graph.Upstream output.1.id root := by
    apply trail.upstream
    rw [← List.cons_append]
    exact List.mem_append_left _ member
  have apart : (((newer ++ [(node, socket)]).map Output.frame).map Frame.waypoint).Nodup :=
    distinct.sublist (by simp)
  exact Graph.cycle_of_loop built.sound loop above apart

def Control.sought : Control → List Output
  | .ask node asked => [(node, asked)]
  | .gather _ _ | .close _ _ | .answer _ => []

def Config.trail (config : Config σ) : List Output := config.control.sought ++ config.opened

def Scene.Relays (scene : Scene σ) (root : NodeId) (cause : Error) : Prop :=
  (∃ node ∈ scene.graph.nodes, node.id = root ∧ node.kind = .print) ∧ scene.host.Raised cause

/-- Links lead along what is under resolution, and a cycle that is reported is one, unless the report comes from the
    receiver of emissions. -/
structure Scene.Follows (scene : Scene σ) (root : NodeId) (config : Config σ) : Prop where
  trail : scene.graph.Trail root config.trail
  reported : ∀ name socket path, config.control.outcome? = some (.error (.failure (.cycle name socket path))) →
    scene.graph.Cycle root name socket path ∨ scene.Relays root (.failure (.cycle name socket path))

namespace Scene

variable {scene : Scene σ} {limit : Option Nat} {root : NodeId} {left : List OutputKey} {config later : Config σ}
  {waiting : List Waiting} {run : Run σ} {node : Node} {asked socket : Option String}

theorem trail_opens (trail : scene.graph.Trail root (⟨.ask node asked, waiting, run⟩ : Config σ).trail)
    (declared : node.output asked = .ok socket) :
    scene.graph.Trail root ((node, socket) :: (⟨.ask node asked, waiting, run⟩ : Config σ).opened) := by
  change scene.graph.Trail root ((node, asked) :: (⟨.ask node asked, waiting, run⟩ : Config σ).opened) at trail
  generalize (⟨.ask node asked, waiting, run⟩ : Config σ).opened = opened at trail ⊢
  cases opened with
  | nil =>
    refine ⟨.singleton _, ?_⟩
    intro output member
    rw [List.mem_singleton.mp member]
    exact trail.upstream (node, asked) List.mem_cons_self
  | cons first rest =>
    -- Only the root can be asked for without a name; a link names the output that is opened.
    obtain ⟨_, _, link, _, _, output, _⟩ := (List.isChain_cons_cons.mp trail.linked).1
    have named : asked = some link.output := output
    rw [named] at declared trail
    rw [(output_some declared).1]
    exact trail

theorem request_follows (built : scene.graph.Built)
    (sits : scene.Sits (· ∈ scene.graph.nodes) left ⟨.ask node asked, waiting, run⟩)
    (follows : scene.Follows root ⟨.ask node asked, waiting, run⟩) :
    scene.Follows root (scene.request limit node asked waiting run) := by
  have inside : node ∈ scene.graph.nodes := (sits.poised.asked node asked rfl).1.elim id id
  have rest : scene.graph.Trail root (⟨.ask node asked, waiting, run⟩ : Config σ).opened := follows.trail.tail
  unfold request
  by_cases stop : full limit waiting.length = true
  · rw [if_pos stop]
    exact ⟨rest, by simp [Control.outcome?]⟩
  · rw [if_neg stop]
    cases declared : node.output asked with
    | error cause =>
      refine ⟨rest, ?_⟩
      intro name socket path same
      cases same
      cases asked with
      | none => cases declared
      | some output =>
        simp only [Node.output] at declared
        split at declared <;> cases declared
    | ok socket =>
      have opens := trail_opens follows.trail declared
      simp only
      cases visited : run.pass.state (Frame.key ⟨node.id, node.name, socket⟩) with
      | resolved =>
        refine ⟨rest, ?_⟩
        intro name output path same
        obtain ⟨label, other⟩ := (scene.reuse_raises _).outcome run _ (Option.some.inj same)
        cases other
      | inProgress =>
        refine ⟨rest, ?_⟩
        intro name output path same
        simp only [Control.outcome?, Frame.met] at same
        split at same
        · rename_i met
          cases same
          exact .inl (sits.orderly.cycle built (fun node member => member.elim id id) inside met opens)
        · cases same
      | unvisited => exact ⟨opens, by simp [Control.outcome?]⟩

theorem take_follows (job : Job) (input : InputSocket) (inputs : List InputSocket)
    (inside : job.node ∈ scene.graph.nodes) (follows : scene.Follows root ⟨.gather job (input :: inputs), waiting, run⟩) :
    scene.Follows root (scene.take job input inputs waiting run) := by
  unfold take
  cases joined : scene.graph.inputLink? job.node.id input.name with
  | none =>
    simp only
    split
    · exact ⟨follows.trail, by simp [Control.outcome?]⟩
    · exact ⟨follows.trail, by simp [Control.outcome?]⟩
  | some link =>
    simp only
    cases found : scene.graph.find? link.source with
    | none => exact ⟨follows.trail, by simp [Control.outcome?]⟩
    | some source =>
      obtain ⟨member, into, _⟩ := Graph.mem_of_inputLink? joined
      obtain ⟨sourceInside, same⟩ := Graph.mem_of_find? found
      have leads : scene.graph.Leads (source, some link.output) (job.node, job.socket) :=
        ⟨sourceInside, inside, link, member, same.symm, rfl, into⟩
      have longer := Graph.Trail.extend follows.trail leads
      exact ⟨longer, by simp [Control.outcome?]⟩

theorem next_follows (built : scene.graph.Built) (sits : scene.Sits (· ∈ scene.graph.nodes) left config)
    (follows : scene.Follows root config) (stepped : scene.next limit config = some later) : scene.Follows root later := by
  obtain ⟨control, waiting, run⟩ := config
  cases control with
  | ask node asked =>
    cases stepped
    exact request_follows built sits follows
  | gather job inputs =>
    have inside : job.node ∈ scene.graph.nodes :=
      (sits.orderly.proper (job.node, job.socket) List.mem_cons_self).1.elim id id
    cases inputs with
    | cons input inputs =>
      cases stepped
      exact take_follows job input inputs inside follows
    | nil =>
      cases stepped
      refine ⟨follows.trail, ?_⟩
      intro name socket path same
      rcases (scene.conclusion_raises job).outcome run _ (Option.some.inj same) with rule | ⟨print, text | raised⟩
      · cases rule
      · cases text
      · have upstream := follows.trail.upstream (job.node, job.socket) List.mem_cons_self
        exact .inr ⟨⟨job.node, inside, built.sound.print_upstream inside print upstream, print⟩, raised⟩
  | close job outcome =>
    cases stepped
    exact ⟨follows.trail.tail, follows.reported⟩
  | answer outcome =>
    cases waiting with
    | nil => cases outcome <;> cases stepped
    | cons first waiting =>
      cases outcome with
      | ok e =>
        cases stepped
        exact ⟨follows.trail, by simp [Control.outcome?]⟩
      | error cause =>
        cases stepped
        exact ⟨follows.trail, follows.reported⟩

theorem steps_follows (built : scene.graph.Built) (sits : scene.Sits (· ∈ scene.graph.nodes) left config)
    (follows : scene.Follows root config) (steps : scene.Steps limit config later) : scene.Follows root later := by
  induction steps with
  | refl => exact follows
  | tail before stepped ih =>
    obtain ⟨_, sits⟩ := sits.steps before
    exact next_follows built sits ih stepped

/-- A cycle that a resolution reports, in a pass that others went before, is there, upstream of what was asked for; or a
    Print node was asked for, and it was the receiver of its emission who raised the report. -/
theorem cycle_reported {options : Options} (built : scene.graph.Built) (history : scene.History options run)
    {root : Node} (inside : root ∈ scene.graph.nodes) (asked : Option String) (depth : Nat) {name : String}
    {socket : Option String} {path : List Waypoint}
    (raised : ((scene.resolve depth root asked).outcome run).1 = .error (.failure (.cycle name socket path))) :
    scene.graph.Cycle root.id name socket path ∨
      root.kind = .print ∧ scene.host.Raised (.failure (.cycle name socket path)) := by
  obtain ⟨left, orderly, abandoned⟩ := history.orderly
  have sits : scene.Sits (· ∈ scene.graph.nodes) left ⟨.ask root asked, [], run⟩ :=
    sits_ask root asked inside orderly abandoned
  have start : scene.Follows root.id ⟨.ask root asked, [], run⟩ := by
    refine ⟨⟨.singleton _, ?_⟩, by simp [Control.outcome?]⟩
    intro output member
    rw [List.mem_singleton.mp member]
    exact .refl
  have ends := steps_follows built sits start (scene.resolve_steps depth root asked [] run)
  rcases ends.reported name socket path (congrArg some raised) with cycle | ⟨⟨node, member, same, print⟩, relayed⟩
  · exact .inl cycle
  · have one : node = root := List.inj_on_of_nodup_map built.sound.distinct member inside same
    exact .inr ⟨one ▸ print, relayed⟩

/-- The path leaves out how the cycle was reached: from the preview and the first lane of the split. -/
theorem cycle_reported_entangled :
    let scene : Scene (List Emission) := ⟨.shipped, .entangled, .recorder .standard⟩
    let view : Node := ⟨⟨0, 3⟩, .preview, "view", []⟩
    let run : Run (List Emission) := ⟨.fresh .standard, [], []⟩
    let path : List Waypoint := [("join", some "vec"), ("split", some "y"), ("join", some "vec")]
    scene.graph.Built ∧ scene.History .standard run ∧ view ∈ scene.graph.nodes ∧
      ((scene.resolve 9 view none).outcome run).1 = .error (.failure (.cycle "join" (some "vec") path)) ∧
      scene.graph.Cycle view.id "join" (some "vec") path := by
  intro scene view run path
  have history : scene.History .standard run := .start _
  have inside : view ∈ scene.graph.nodes := by simp [scene, view, Graph.entangled]
  have raised : ((scene.resolve 9 view none).outcome run).1 = .error (.failure (.cycle "join" (some "vec") path)) := by
    rfl
  have reported := cycle_reported Graph.entangled_built history inside none 9 raised
  exact ⟨Graph.entangled_built, history, inside, raised, reported.resolve_right fun relayed => absurd relayed.1 (by decide)⟩

end Scene

end ShaderGraph
