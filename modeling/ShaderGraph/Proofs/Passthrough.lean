import ShaderGraph.Proofs.Cone
import ShaderGraph.Proofs.Detour
import ShaderGraph.Proofs.Editing
import ShaderGraph.Proofs.Sharing

namespace ShaderGraph

open Relation

namespace Graph

/-- A graph that edits make, with a new Preview node in the place of a link. -/
structure Interposes (graph : Graph) (link : Link) (relay : Node) (result : Graph) : Prop where
  built : result.Built
  nodes : result.nodes = graph.nodes ++ [relay]
  kind : relay.kind = .preview
  links : ∀ other, other ∈ result.links ↔ other ∈ graph.links ∧ other ≠ link ∨
    other = ⟨link.source, link.output, relay.id, "input"⟩ ∨ other = ⟨relay.id, "output", link.target, link.input⟩

theorem mem_unlink {graph : Graph} (sound : graph.Sound) {link : Link} (linked : link ∈ graph.links) (other : Link) :
    other ∈ (graph.unlink link.target link.input).1.links ↔ other ∈ graph.links ∧ other ≠ link := by
  rw [unlink_links, List.mem_filter, decide_eq_true_iff]
  refine and_congr_right fun member => not_congr ⟨?_, ?_⟩
  · exact List.inj_on_of_nodup_map sound.single member linked
  · rintro rfl
    rfl

theorem Built.exists_interposes {graph : Graph} (built : graph.Built) {link : Link} (linked : link ∈ graph.links) :
    ∃ relay result, graph.Interposes link relay result := by
  obtain ⟨source, sourceInside, target, targetInside, sourceId, targetId, hasOutput, hasInput⟩ :=
    built.sound.joins link linked
  have bare : (graph.unlink link.target link.input).1.Built := built.edit (.unlink _ _ _)
  obtain ⟨⟨grown, relay⟩, made⟩ :=
    (new_iff (graph.unlink link.target link.input).1 .preview none []).mpr ⟨by simp, by simp⟩
  have grownBuilt := bare.edit (.new made)
  have nodes : grown.nodes = graph.nodes ++ [relay] := by rw [new_eq_ok made]; rfl
  have links : grown.links = (graph.unlink link.target link.input).1.links := by rw [new_eq_ok made]
  have kind : relay.kind = .preview := by
    obtain ⟨⟨_, own, same, preview, _⟩, _⟩ := Request.new_revises made
    rw [nodes] at same
    rw [List.singleton_inj.mp (List.append_cancel_left same), preview]
  have fresh := grownBuilt.sound.last_fresh nodes
  have relayInside : relay ∈ grown.nodes := by simp [nodes]
  have sourceKept : source ∈ grown.nodes := by simp [nodes, sourceInside]
  have targetKept : target ∈ grown.nodes := by simp [nodes, targetInside]
  have member (other : Link) : other ∈ grown.links ↔ other ∈ graph.links ∧ other ≠ link := by
    rw [links, mem_unlink built.sound linked]
  have unfed : ∀ other ∈ grown.links, other.slot ≠ (relay.id, "input") := by
    intro other found same
    obtain ⟨_, _, own, ownInside, _, ownId, _⟩ := built.sound.joins other ((member other).mp found).1
    exact fresh own ownInside (ownId.trans (Prod.mk.inj same).1)
  obtain ⟨⟨fed, first⟩, joined⟩ := (link_iff grownBuilt.sound source link.output relay "input").mpr
    ⟨⟨source, sourceKept, rfl, hasOutput⟩, ⟨relay, relayInside, rfl, by rw [kind]; rfl⟩, unfed⟩
  have fedBuilt := grownBuilt.edit (.link joined)
  obtain ⟨⟨fedNodes, fedLinks⟩, _⟩ := Request.link_revises joined
  have vacant : ∀ other ∈ fed.links, other.slot ≠ (target.id, link.input) := by
    intro other found same
    rw [fedLinks, List.mem_append, List.mem_singleton] at found
    rcases found with kept | rfl
    · obtain ⟨inGraph, different⟩ := (member other).mp kept
      rw [targetId] at same
      exact different (List.inj_on_of_nodup_map built.sound.single inGraph linked same)
    · exact fresh target targetInside (Prod.mk.inj same).1.symm
  obtain ⟨⟨result, second⟩, finished⟩ := (link_iff fedBuilt.sound relay "output" target link.input).mpr
    ⟨⟨relay, fedNodes ▸ relayInside, rfl, by rw [kind]; rfl⟩, ⟨target, fedNodes ▸ targetKept, rfl, hasInput⟩, vacant⟩
  obtain ⟨⟨lastNodes, lastLinks⟩, _⟩ := Request.link_revises finished
  refine ⟨relay, result, fedBuilt.edit (.link finished), by rw [lastNodes, fedNodes, nodes], kind, ?_⟩
  intro other
  simp [lastLinks, fedLinks, member, sourceId, targetId]

namespace Interposes

variable {graph result : Graph} {link : Link} {relay : Node} (interposes : graph.Interposes link relay result)

include interposes

theorem find?_of_some {id : NodeId} {node : Node} (found : graph.find? id = some node) :
    result.find? id = some node := by
  unfold find? at found ⊢
  rw [interposes.nodes, List.find?_append, found, Option.some_or]

theorem rootNode {start : Root} {node : Node} (found : graph.rootNode start = .ok node) :
    result.rootNode start = .ok node := by
  cases start with
  | node given =>
    rw [Graph.rootNode, member_eq_ok_iff] at found ⊢
    exact interposes.find?_of_some found
  | named name =>
    simp only [Graph.rootNode, named?] at found ⊢
    rw [interposes.nodes, List.find?_append]
    split at found
    · rename_i own named
      rw [named, Option.some_or]
      exact found
    · cases found

theorem inputLink?_eq (sound : graph.Sound) {node : Node} (inside : node ∈ graph.nodes) {input : String}
    (other : (node.id, input) ≠ link.slot) : result.inputLink? node.id input = graph.inputLink? node.id input := by
  have fresh := interposes.built.sound.last_fresh interposes.nodes node inside
  cases known : graph.inputLink? node.id input with
  | some own =>
    obtain ⟨linked, target, named⟩ := mem_of_inputLink? known
    have kept : own ∈ result.links := by
      refine (interposes.links own).mpr (.inl ⟨linked, ?_⟩)
      rintro rfl
      exact other (by rw [Link.slot, target, named])
    rw [← target, ← named, inputLink?_of_mem interposes.built.sound kept]
  | none =>
    cases found : result.inputLink? node.id input with
    | none => rfl
    | some own =>
      obtain ⟨linked, target, named⟩ := mem_of_inputLink? found
      rcases (interposes.links own).mp linked with ⟨old, _⟩ | rfl | rfl
      · have same := inputLink?_of_mem sound old
        rw [target, named, known] at same
        cases same
      · exact absurd target.symm fresh
      · exact absurd (by rw [Link.slot, ← target, ← named]) other

theorem detour (sound : graph.Sound) (linked : link ∈ graph.links) {origin : Node} (inside : origin ∈ graph.nodes)
    (source : origin.id = link.source) (declared : origin.kind.template.hasOutput link.output = true) :
    graph.Detour result (fun id => ∃ node ∈ graph.nodes, node.id = id) relay (some "output") "input" origin
      link.output where
  distinct := sound.distinct
  otherDistinct := interposes.built.sound.distinct
  closed := by
    intro id _ input own found
    obtain ⟨node, inside, _, same, _⟩ := sound.source found
    exact ⟨node, inside, same⟩
  shared := by
    rintro _ ⟨node, inside, rfl⟩
    have found := find?_of_mem sound inside
    rw [found, interposes.find?_of_some found]
  links := by
    rintro _ ⟨node, inside, rfl⟩ input
    by_cases same : (node.id, input) = link.slot
    · obtain ⟨target, named⟩ := Prod.mk.inj same
      have joined : (⟨relay.id, "output", link.target, link.input⟩ : Link) ∈ result.links :=
        (interposes.links _).mpr (.inr (.inr rfl))
      right
      rw [target, named]
      refine ⟨link, ⟨relay.id, "output", link.target, link.input⟩, inputLink?_of_mem sound linked, source.symm, rfl,
        inputLink?_of_mem interposes.built.sound joined, rfl, ?_⟩
      simp [Node.output, interposes.kind, NodeKind.template, Template.hasOutput, NodeKind.outputs]
    · exact .inl (interposes.inputLink?_eq sound inside same)
  started := find?_of_mem sound inside
  above := ⟨origin, inside, rfl⟩
  declared := by simp [Node.output, declared]
  member := find?_of_mem interposes.built.sound (by simp [interposes.nodes])
  outside := by
    rintro ⟨node, inside, same⟩
    exact interposes.built.sound.last_fresh interposes.nodes node inside same
  kind := by rw [interposes.kind]; rfl
  fed := by
    have joined : (⟨link.source, link.output, relay.id, "input"⟩ : Link) ∈ result.links :=
      (interposes.links _).mpr (.inr (.inl rfl))
    exact ⟨_, inputLink?_of_mem interposes.built.sound joined, source.symm, rfl⟩

end Interposes

theorem Sound.relay_detour {graph : Graph} (sound : graph.Sound) {relay origin : Node} (inside : relay ∈ graph.nodes)
    {input : String} (kind : relay.kind.relay? = some input) {link : Link}
    (joined : graph.inputLink? relay.id input = some link) (originInside : origin ∈ graph.nodes)
    (source : origin.id = link.source) (acyclic : ¬graph.CyclicAbove relay.id) (outlet : Option String) :
    graph.Detour graph (fun id => graph.Upstream id origin.id) relay outlet input origin link.output where
  distinct := sound.distinct
  otherDistinct := sound.distinct
  closed _ above _ _ found := above.head (feeds_of_inputLink? found)
  shared _ _ := rfl
  links _ _ _ := .inl rfl
  started := find?_of_mem sound originInside
  above := .refl
  declared := by
    obtain ⟨own, ownInside, _, same, declared⟩ := sound.source joined
    rw [List.inj_on_of_nodup_map sound.distinct originInside ownInside (source.trans same.symm)]
    simp [Node.output, declared]
  member := find?_of_mem sound inside
  outside above := by
    have around : TransGen graph.Feeds relay.id relay.id :=
      .tail' above (source ▸ feeds_of_inputLink? joined)
    exact acyclic ⟨relay.id, .refl, around⟩
  kind := kind
  fed := ⟨link, joined, source.symm, rfl⟩

end Graph

inductive SameEnd : Except Error CompileResult → Except Error CompileResult → Prop
  | shader {result other : CompileResult} (written : result.source.isSome) (source : other.source = result.source)
      (count : other.statementCount = result.statementCount) : SameEnd (.ok result) (.ok other)
  | failure {cause other : Failure} (family : other.family = cause.family) :
      SameEnd (.error (.failure cause)) (.error (.failure other))
  | overlong (limit : Nat) : SameEnd (.error (.overlong limit)) (.error (.overlong limit))

namespace Scene

variable {σ τ : Type} {scene : Scene σ} {other : Scene τ} {options : Options} {start otherStart : Root}
  {node twin : Node} {socket otherSocket : Option String}

section Compile

variable (built : scene.graph.Built) (conforms : scene.catalog.Conforms) (valid : options.Valid)
  (accepts : scene.host.Accepts)

include built conforms valid accepts

theorem compile_shadow (limits : other.host.limits = scene.host.limits) {relation : Run σ → Run τ → Prop}
    (found : scene.graph.rootNode start = .ok node) (otherFound : other.graph.rootNode otherStart = .ok twin) {world : σ}
    {otherWorld : τ} (shallow : Shallow ((other.compile options otherStart otherSocket).outcome otherWorld).1)
    (shadow : Shadow relation
      (scene.resolveFresh options node socket (scene.host.log (scene.opening node socket) world))
      (other.resolveFresh options twin otherSocket (other.host.log (other.opening twin otherSocket) otherWorld))) :
    SameEnd ((scene.compile options start socket).outcome world).1
      ((other.compile options otherStart otherSocket).outcome otherWorld).1 := by
  rcases compile_lockstep built conforms valid accepts found otherFound limits shadow with
    ⟨_, _, ok, otherOk, written, source, count⟩ | ⟨_, _, failed, otherFailed, family⟩ |
    ⟨_, ⟨limit, bound, stopped⟩, _, otherBound, otherStopped⟩ | ⟨_, rfl, nested⟩
  · rw [ok, otherOk]
    exact .shader written source count
  · rw [failed, otherFailed]
    exact .failure family
  · cases bound.symm.trans otherBound
    rw [stopped, otherStopped]
    exact .overlong limit
  · exact absurd nested (shallow _ _)

omit conforms accepts in
theorem compile_refused (found : scene.graph.rootNode start = .ok node)
    (otherFound : other.graph.rootNode otherStart = .ok twin) {world : σ} {otherWorld : τ}
    (refused : scene.Refused options twin
      (scene.resolveFresh options node socket (scene.host.log (scene.opening node socket) world))
      (other.resolveFresh options twin otherSocket (other.host.log (other.opening twin otherSocket) otherWorld))) :
    SameEnd ((scene.compile options start socket).outcome world).1
      ((other.compile options otherStart otherSocket).outcome otherWorld).1 := by
  obtain ⟨_, rfl, _, done⟩ := scene.compile_cases options found socket world
  obtain ⟨_, rfl, otherFailed, _⟩ := other.compile_cases options otherFound otherSocket otherWorld
  obtain ⟨_, e, cause, resolved, unwritten, otherResolved⟩ := refused
  rw [done e resolved, otherFailed cause otherResolved, unwritten]
  rcases resolveFresh_render built valid (Graph.mem_of_rootNode found) resolved scene.host.limits.digits with
    ⟨_, source, written⟩ | ⟨_, limit, _, stopped⟩
  · rw [unwritten] at written
    cases written
  · rw [unwritten] at stopped
    cases stopped
    exact .overlong limit

theorem compile_family (found : scene.graph.rootNode start = .ok node) {world : σ}
    (shallow : Shallow ((scene.compile options start socket).outcome world).1) {failure : Failure}
    (failed : ((scene.compile options start socket).outcome world).1 = .error (.failure failure)) :
    failure.family ≠ .compilation := by
  have ends := compile_ends built valid conforms accepts found shallow
  rw [failed] at ends
  cases ends with
  | undeclared _ family => rw [family]; decide
  | cycle _ family => rw [family]; decide
  | gap _ family => rw [family]; decide

theorem compile_ok_iff (found : scene.graph.rootNode start = .ok node) {world : σ}
    (shallow : Shallow ((scene.compile options start socket).outcome world).1) :
    (∃ result, ((scene.compile options start socket).outcome world).1 = .ok result) ↔
      (∃ output, node.output socket = .ok output) ∧ ¬scene.graph.CyclicAbove node.id ∧
        ¬scene.graph.GapAbove scene.catalog node.id ∧ options.Fits scene.host.limits.digits := by
  have ends := compile_ends built valid conforms accepts found shallow
  generalize ((scene.compile options start socket).outcome world).1 = compiled at ends ⊢
  cases ends with
  | undeclared absent => simp [absent]
  | cycle _ _ cyclic => simp [cyclic]
  | gap _ _ gap => simp [gap]
  | overlong _ _ _ beyond => simp [beyond]
  | done declared clear fits => simp [declared, clear.not_cyclic, clear.2, fits]

theorem compile_interposed (catalog : other.catalog = scene.catalog) (limits : other.host.limits = scene.host.limits)
    (otherAccepts : other.host.Accepts) {link : Link} (linked : link ∈ scene.graph.links) {relay : Node}
    (interposes : scene.graph.Interposes link relay other.graph) (found : scene.graph.rootNode start = .ok node)
    (world : σ) {otherWorld : τ} (shallow : Shallow ((other.compile options start socket).outcome otherWorld).1) :
    SameEnd ((scene.compile options start socket).outcome world).1
      ((other.compile options start socket).outcome otherWorld).1 := by
  have sound := built.sound
  have inside := Graph.mem_of_rootNode found
  obtain ⟨origin, originInside, _, source, declared⟩ := sound.source (Graph.inputLink?_of_mem sound linked)
  have detour := interposes.detour sound linked originInside source declared
  have digits : other.host.limits.digits = scene.host.limits.digits := by rw [limits]
  have room : other.host.limits.nesting ≤ scene.host.limits.nesting := by rw [limits]
  have trails := resolve_trails catalog (catalog ▸ conforms) detour accepts otherAccepts digits _ _ room
  exact compile_shadow built conforms valid accepts limits found (interposes.rootNode found) shallow
    (trails.follows node (Graph.find?_of_mem sound inside) ⟨node, inside, rfl⟩ socket _ _
      ⟨.fresh options _ _, .fresh options _, .fresh options _⟩)

theorem compile_relay {relay origin : Node} {input : String} (kind : relay.kind.relay? = some input) {link : Link}
    (joined : scene.graph.inputLink? relay.id input = some link) (source : origin.id = link.source)
    (acyclic : ¬scene.graph.CyclicAbove relay.id) (found : scene.graph.rootNode start = .ok origin)
    (relayFound : scene.graph.rootNode otherStart = .ok relay) {asked outlet : Option String}
    (asks : relay.output asked = .ok outlet) (world : σ) {relayWorld : σ}
    (shallow : Shallow ((scene.compile options otherStart asked).outcome relayWorld).1) :
    SameEnd ((scene.compile options start (some link.output)).outcome world).1
      ((scene.compile options otherStart asked).outcome relayWorld).1 := by
  have inside := Graph.mem_of_rootNode found
  have detour := built.sound.relay_detour (Graph.mem_of_rootNode relayFound) kind joined inside source acyclic outlet
  have trails := resolve_trails rfl conforms detour accepts accepts rfl
  have relayed before relayBefore := relay_shadow rfl conforms detour accepts accepts rfl
    (Nat.le_refl scene.host.limits.nesting) (fun less _ => trails less) asks
    ⟨.fresh options before relayBefore, .fresh options before, .fresh options relayBefore⟩
  rcases relayed _ _ with shadow | refused
  · exact compile_shadow built conforms valid accepts rfl found relayFound shallow shadow
  · exact compile_refused built valid found relayFound refused

/-- A link that goes through a new Preview node, from whatever edits, leaves the source and the number of statements of
    every compile as they are. A compile from a Preview or Print node is one from the output that feeds it. -/
theorem compile_passthrough :
    (∀ link ∈ scene.graph.links, (∃ relay result, scene.graph.Interposes link relay result) ∧
      ∀ relay, ∀ (τ : Type) (other : Scene τ), scene.graph.Interposes link relay other.graph →
        other.catalog = scene.catalog → other.host.limits = scene.host.limits → other.host.Accepts →
        ∀ start node, scene.graph.rootNode start = .ok node → ∀ socket world otherWorld,
        Shallow ((other.compile options start socket).outcome otherWorld).1 →
        SameEnd ((scene.compile options start socket).outcome world).1
          ((other.compile options start socket).outcome otherWorld).1 ∧
        ((∃ result, ((scene.compile options start socket).outcome world).1 = .ok result) ↔
          (∃ output, node.output socket = .ok output) ∧ ¬scene.graph.CyclicAbove node.id ∧
            ¬scene.graph.GapAbove scene.catalog node.id ∧ options.Fits scene.host.limits.digits)) ∧
    ∀ start relay, scene.graph.rootNode start = .ok relay → ¬scene.graph.CyclicAbove relay.id →
      ∀ input link, relay.kind.relay? = some input → scene.graph.inputLink? relay.id input = some link →
      ∀ originStart origin, scene.graph.rootNode originStart = .ok origin → origin.id = link.source →
      ∀ asked outlet, relay.output asked = .ok outlet → ∀ world originWorld,
      Shallow ((scene.compile options start asked).outcome world).1 →
      SameEnd ((scene.compile options originStart (some link.output)).outcome originWorld).1
        ((scene.compile options start asked).outcome world).1 ∧
      ((∃ result, ((scene.compile options start asked).outcome world).1 = .ok result) ↔
        ¬scene.graph.GapAbove scene.catalog relay.id ∧ options.Fits scene.host.limits.digits) := by
  constructor
  · intro link linked
    refine ⟨built.exists_interposes linked, ?_⟩
    intro relay τ other interposes catalog limits otherAccepts start node found socket world otherWorld shallow
    have same := compile_interposed built conforms valid accepts catalog limits otherAccepts linked interposes found world
      shallow
    refine ⟨same, compile_ok_iff built conforms valid accepts found ?_⟩
    -- The compile without the detour is not nested too deeply either: the other one would fail with it.
    intro name target deep
    rw [deep] at same
    generalize ended : ((other.compile options start socket).outcome otherWorld).1 = outcome at same
    cases same with
    | failure family =>
      exact compile_family interposes.built (catalog ▸ conforms) valid otherAccepts (interposes.rootNode found) shallow
        ended family
  · intro start relay found acyclic input link kind joined originStart origin originFound source asked outlet asks world
      originWorld shallow
    refine ⟨compile_relay built conforms valid accepts kind joined source acyclic originFound found asks originWorld
      shallow, ?_⟩
    rw [compile_ok_iff built conforms valid accepts found shallow]
    simp [asks, acyclic]

end Compile

end Scene

namespace Graph

/-- The tinted graph with a Preview node in front of the first lane; the second still takes the shared output. -/
def routed : Graph where
  key := 0
  name := standardName
  nodes := tinted.nodes ++ [⟨⟨0, 3⟩, .preview, "view", []⟩]
  links := [⟨⟨0, 0⟩, "r", ⟨0, 1⟩, "value"⟩, ⟨⟨0, 1⟩, "saturated", ⟨0, 2⟩, "y"⟩, ⟨⟨0, 0⟩, "g", ⟨0, 2⟩, "z"⟩,
    ⟨⟨0, 1⟩, "saturated", ⟨0, 3⟩, "input"⟩, ⟨⟨0, 3⟩, "output", ⟨0, 2⟩, "x"⟩]
  issued := 4

theorem routed_built : routed.Built := by
  have bare := tinted_built.edit (.unlink tinted ⟨0, 2⟩ "x")
  have view := bare.add .preview "view" rfl (by decide) (by decide)
  have fed := view.join ⟨⟨0, 1⟩, .saturate, "clip", []⟩ "saturated" ⟨⟨0, 3⟩, .preview, "view", []⟩ "input" rfl
  exact fed.join ⟨⟨0, 3⟩, .preview, "view", []⟩ "output" ⟨⟨0, 2⟩, .vector, "mix", []⟩ "x" rfl

theorem tinted_routed :
    tinted.Interposes ⟨⟨0, 1⟩, "saturated", ⟨0, 2⟩, "x"⟩ ⟨⟨0, 3⟩, .preview, "view", []⟩ routed := by
  refine ⟨routed_built, rfl, rfl, ?_⟩
  intro other
  have kept := mem_unlink tinted_built.sound
    (by decide : (⟨⟨0, 1⟩, "saturated", ⟨0, 2⟩, "x"⟩ : Link) ∈ tinted.links) other
  rw [← kept]
  simp [routed, tinted, unlink, or_assoc]

end Graph

theorem Scene.compile_passthrough_routed :
    let scene : Scene (List Emission) := ⟨.shipped, .tinted, .recorder .standard⟩
    let other : Scene (List Emission) := ⟨.shipped, .routed, .recorder .standard⟩
    scene.graph.Built ∧ other.graph.Built ∧ scene.catalog.Conforms ∧ Options.standard.Valid ∧ scene.host.Accepts ∧
      SameEnd ((scene.compile .standard (.named "mix") none).outcome []).1
        ((other.compile .standard (.named "mix") none).outcome []).1 ∧
      (∃ result, ((other.compile .standard (.named "mix") none).outcome []).1 = .ok result) ∧
      SameEnd ((other.compile .standard (.named "clip") (some "saturated")).outcome []).1
        ((other.compile .standard (.named "view") none).outcome []).1 ∧
      ∃ result, ((other.compile .standard (.named "view") none).outcome []).1 = .ok result := by
  intro scene other
  have built : scene.graph.Built := Graph.tinted_built
  have otherBuilt : other.graph.Built := Graph.routed_built
  have valid := Options.standard_valid
  have conforms : scene.catalog.Conforms := Catalog.shipped_conforms
  have accepts : scene.host.Accepts := Host.recorder_accepts .standard
  have ends {outcome : Except Error CompileResult} (ok : outcome.toOption.isSome = true) :
      ∃ result, outcome = .ok result := by
    cases outcome with
    | error cause => cases ok
    | ok result => exact ⟨result, rfl⟩
  have mixed : ∃ result, ((other.compile .standard (.named "mix") none).outcome []).1 = .ok result :=
    ends (by decide +kernel)
  have viewed : ∃ result, ((other.compile .standard (.named "view") none).outcome []).1 = .ok result :=
    ends (by decide +kernel)
  have shallow {start : Root} (ok : ∃ result, ((other.compile .standard start none).outcome []).1 = .ok result) :
      Shallow ((other.compile .standard start none).outcome []).1 := by
    intro name target deep
    obtain ⟨result, compiled⟩ := ok
    rw [compiled] at deep
    cases deep
  have linked : (⟨⟨0, 1⟩, "saturated", ⟨0, 2⟩, "x"⟩ : Link) ∈ scene.graph.links := by simp [scene, Graph.tinted]
  have found : other.graph.rootNode (.named "view") = .ok ⟨⟨0, 3⟩, .preview, "view", []⟩ := rfl
  have acyclic := ((compile_ok_iff otherBuilt conforms valid accepts found (shallow viewed)).mp viewed).2.1
  obtain ⟨same, _⟩ := ((compile_passthrough built conforms valid accepts).1 _ linked).2 _ _ other Graph.tinted_routed
    rfl rfl accepts (.named "mix") _ rfl none [] [] (shallow mixed)
  obtain ⟨relayed, succeeds⟩ := (compile_passthrough otherBuilt conforms valid accepts).2 (.named "view") _ found
    acyclic "input" _ rfl rfl (.named "clip") ⟨⟨0, 1⟩, .saturate, "clip", []⟩ rfl rfl none _ rfl [] [] (shallow viewed)
  exact ⟨built, otherBuilt, conforms, valid, accepts, same, mixed, relayed,
    succeeds.mpr ⟨shipped_no_gap _ _, by decide +kernel⟩⟩

end ShaderGraph
