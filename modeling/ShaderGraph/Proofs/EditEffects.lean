import ShaderGraph.Proofs.Snapshot

namespace ShaderGraph.Graph

structure Gains (graph result : Graph) (node : Node) : Prop where
  name : result.name = graph.name
  nodes : result.nodes = graph.nodes ++ [node]
  links : result.links = graph.links
  entries : ∀ target input, result.inputLink? target input = graph.inputLink? target input
  fresh : ∀ other ∈ graph.nodes, other.id ≠ node.id
  unfed : ∀ input, result.inputLink? node.id input = none
  unused : ∀ target input link, result.inputLink? target input = some link → link.source ≠ node.id

structure Defines (graph result : Graph) (link : Link) : Prop where
  name : result.name = graph.name
  nodes : result.nodes = graph.nodes
  links : result.links = graph.links ++ [link]
  free : graph.inputLink? link.target link.input = none
  entries : ∀ target input, result.inputLink? target input =
    if (target, input) = (link.target, link.input) then some link else graph.inputLink? target input

structure Undefines (graph result : Graph) (target : NodeId) (input : String) : Prop where
  name : result.name = graph.name
  nodes : result.nodes = graph.nodes
  order : result.links.Sublist graph.links
  entries : ∀ other socket, result.inputLink? other socket =
    if (other, socket) = (target, input) then none else graph.inputLink? other socket

structure Loses (graph result : Graph) (node : Node) : Prop where
  name : result.name = graph.name
  nodes : ∃ before own after, own.id = node.id ∧ graph.nodes = before ++ own :: after ∧ result.nodes = before ++ after
  order : result.links.Sublist graph.links
  entries : ∀ target input link, result.inputLink? target input = some link ↔
    graph.inputLink? target input = some link ∧ target ≠ node.id ∧ link.source ≠ node.id

theorem Sound.inputLink?_iff {graph : Graph} (sound : graph.Sound) {target : NodeId} {input : String} {link : Link} :
    graph.inputLink? target input = some link ↔ link ∈ graph.links ∧ link.target = target ∧ link.input = input := by
  constructor
  · exact mem_of_inputLink?
  · rintro ⟨member, rfl, rfl⟩
    exact inputLink?_of_mem sound member

theorem Sound.inputLink?_outside {graph : Graph} (sound : graph.Sound) {id : NodeId}
    (outside : ∀ node ∈ graph.nodes, node.id ≠ id) (input : String) : graph.inputLink? id input = none := by
  cases found : graph.inputLink? id input with
  | none => rfl
  | some link =>
    obtain ⟨linked, target, _⟩ := mem_of_inputLink? found
    obtain ⟨_, _, own, inside, _, same, _⟩ := sound.joins link linked
    exact absurd (same.trans target) (outside own inside)

theorem Sound.source_ne {graph : Graph} (sound : graph.Sound) {id : NodeId} (outside : ∀ node ∈ graph.nodes, node.id ≠ id)
    {link : Link} (linked : link ∈ graph.links) : link.source ≠ id := by
  obtain ⟨own, inside, _, _, same, _⟩ := sound.joins link linked
  rw [← same]
  exact outside own inside

theorem links_of_free {graph : Graph} {target : NodeId} {input : String} (free : graph.inputLink? target input = none) :
    graph.links.filter (fun link => link.slot ≠ (target, input)) = graph.links := by
  rw [List.filter_eq_self]
  intro link linked
  rw [decide_eq_true_iff]
  intro same
  obtain ⟨rfl, rfl⟩ := Prod.mk.inj same
  simpa using List.find?_eq_none.mp free link linked

section New

variable {graph result : Graph} {kind : NodeKind} {name : Option String} {given : Params} {node : Node}

theorem new_fresh (sound : graph.Sound) (made : graph.new kind name given = .ok (result, node)) :
    ∀ other ∈ graph.nodes, other.id ≠ node.id :=
  (sound.new made).last_fresh (by rw [new_eq_ok made])

theorem new_gains (sound : graph.Sound) (made : graph.new kind name given = .ok (result, node)) :
    graph.Gains result node := by
  have fresh := new_fresh sound made
  rw [new_eq_ok made]
  refine ⟨rfl, rfl, rfl, fun _ _ => rfl, fresh, fun input => sound.inputLink?_outside fresh input, ?_⟩
  intro target input link found
  exact sound.source_ne fresh (mem_of_inputLink? found).1

theorem remove_new (sound : graph.Sound) (made : graph.new kind name given = .ok (result, node)) :
    result.remove node = .ok { graph with issued := graph.issued + 1 } := by
  have fresh := new_fresh sound made
  have found : result.find? node.id = some node := find?_of_mem (sound.new made) (by simp [new_eq_ok made])
  have nodes : (graph.nodes ++ [node]).filter (fun other => other.id != node.id) = graph.nodes := by
    rw [List.filter_append, List.filter_eq_self.mpr (by simpa using fresh)]
    simp
  have links : graph.links.filter (fun link => link.source != node.id && link.target != node.id) = graph.links := by
    rw [List.filter_eq_self]
    intro link linked
    obtain ⟨source, sourceInside, target, targetInside, sourceId, targetId, _⟩ := sound.joins link linked
    simp [← sourceId, ← targetId, fresh source sourceInside, fresh target targetInside]
  rw [remove_eq, member_eq_ok_iff.mpr found, new_eq_ok made]
  show Except.ok { graph with nodes := _, links := _, issued := _ } = _
  rw [nodes, links]

end New

section Link

variable {graph result : Graph} {source target : Node} {output input : String} {link : Link}

theorem link_defines (sound : graph.Sound) (made : graph.link source output target input = .ok (result, link)) :
    graph.Defines result link := by
  have after := sound.link made
  obtain ⟨same, rfl, free⟩ := link_eq_ok made
  have linked : (⟨source.id, output, target.id, input⟩ : Link) ∈ result.links := by simp [same]
  refine ⟨by rw [same], by rw [same], by rw [same], free, ?_⟩
  intro other socket
  split
  · rename_i here
    obtain ⟨rfl, rfl⟩ := Prod.mk.inj here
    exact inputLink?_of_mem after linked
  · rename_i elsewhere
    apply Option.ext
    intro own
    rw [after.inputLink?_iff, sound.inputLink?_iff, same, List.mem_append, List.mem_singleton]
    constructor
    · rintro ⟨member | rfl, ends⟩
      · exact ⟨member, ends⟩
      · exact absurd (Prod.ext ends.1.symm ends.2.symm) elsewhere
    · rintro ⟨member, ends⟩
      exact ⟨.inl member, ends⟩

theorem unlink_link (sound : graph.Sound) (made : graph.link source output target input = .ok (result, link)) :
    result.unlink target.id input = (graph, some link) := by
  have defines := link_defines sound made
  obtain ⟨same, rfl, free⟩ := link_eq_ok made
  have entry : result.inputLink? target.id input = some ⟨source.id, output, target.id, input⟩ := by
    rw [defines.entries, if_pos rfl]
  have links : (result.unlink target.id input).1.links = graph.links := by
    rw [unlink_links, same, List.filter_append, links_of_free free]
    simp [Link.slot]
  apply Prod.ext
  · show { result with links := (result.unlink target.id input).1.links } = graph
    rw [links, same]
  · exact entry

end Link

theorem unlink_undefines {graph : Graph} (sound : graph.Sound) (target : NodeId) (input : String) :
    graph.Undefines (graph.unlink target input).1 target input := by
  refine ⟨rfl, rfl, List.filter_sublist, ?_⟩
  intro other socket
  apply Option.ext
  intro link
  rw [(sound.unlink target input).inputLink?_iff, unlink_links, List.mem_filter, decide_eq_true_iff]
  split
  · rename_i here
    simp only [reduceCtorEq, iff_false]
    rintro ⟨⟨_, kept⟩, rfl, rfl⟩
    exact kept here
  · rename_i elsewhere
    rw [sound.inputLink?_iff]
    constructor
    · rintro ⟨⟨member, _⟩, ends⟩
      exact ⟨member, ends⟩
    · rintro ⟨member, rfl, rfl⟩
      exact ⟨⟨member, elsewhere⟩, rfl, rfl⟩

theorem unlink_of_free {graph : Graph} {target : NodeId} {input : String} (free : graph.inputLink? target input = none) :
    (graph.unlink target input).1 = graph := by
  show { graph with links := (graph.unlink target input).1.links } = graph
  rw [unlink_links, links_of_free free]

theorem remove_nodes {graph result : Graph} {node : Node} (sound : graph.Sound) (made : graph.remove node = .ok result) :
    ∃ before own after, own.id = node.id ∧ graph.nodes = before ++ own :: after ∧ result.nodes = before ++ after := by
  obtain ⟨own, inside, same⟩ := (remove_iff sound node).mp ⟨result, made⟩
  obtain ⟨before, after, split⟩ := List.append_of_mem inside
  refine ⟨before, own, after, same, split, ?_⟩
  have distinct := sound.distinct
  rw [split, List.map_append, List.map_cons, List.nodup_middle, List.nodup_cons, ← List.map_append] at distinct
  have others (other : Node) (member : other ∈ before ++ after) : (other.id != node.id) = true := by
    rw [bne_iff_ne, ← same]
    intro shared
    exact distinct.1 (List.mem_map.mpr ⟨other, member, shared⟩)
  rw [remove_eq_ok made, split]
  show (before ++ own :: after).filter _ = _
  rw [List.filter_append, List.filter_cons_of_neg (by simp [same]), ← List.filter_append, List.filter_eq_self.mpr others]

theorem remove_loses {graph result : Graph} {node : Node} (sound : graph.Sound) (made : graph.remove node = .ok result) :
    graph.Loses result node := by
  have after := sound.remove made
  have removed := remove_eq_ok made
  refine ⟨by rw [removed], remove_nodes sound made, by rw [removed]; exact List.filter_sublist, ?_⟩
  intro target input link
  rw [after.inputLink?_iff, sound.inputLink?_iff, removed, List.mem_filter, Bool.and_eq_true, bne_iff_ne, bne_iff_ne]
  constructor
  · rintro ⟨⟨member, source, kept⟩, rfl, rfl⟩
    exact ⟨⟨member, rfl, rfl⟩, kept, source⟩
  · rintro ⟨⟨member, rfl, rfl⟩, kept, source⟩
    exact ⟨⟨member, source, kept⟩, rfl, rfl⟩

/-- An edit that succeeds changes what it says and nothing else. A node that was added can be removed and a link that was
    made can be dropped again, and the graph is what it was; only the number of a node is not used a second time. -/
theorem edits_exact {graph : Graph} (built : graph.Built) :
    (∀ kind name given result node, graph.new kind name given = .ok (result, node) →
      graph.Gains result node ∧ result.remove node = .ok { graph with issued := graph.issued + 1 }) ∧
    (∀ source output target input result link, graph.link source output target input = .ok (result, link) →
      link = ⟨source.id, output, target.id, input⟩ ∧ graph.Defines result link ∧
        result.unlink target.id input = (graph, some link)) ∧
    (∀ target input, (graph.unlink target input).2 = graph.inputLink? target input ∧
      graph.Undefines (graph.unlink target input).1 target input ∧
      (graph.inputLink? target input = none → (graph.unlink target input).1 = graph)) ∧
    ∀ node result, graph.remove node = .ok result → graph.Loses result node := by
  have sound := built.sound
  refine ⟨?_, ?_, ?_, ?_⟩
  · intro kind name given result node made
    exact ⟨new_gains sound made, remove_new sound made⟩
  · intro source output target input result link made
    exact ⟨(link_eq_ok made).2.1, link_defines sound made, unlink_link sound made⟩
  · intro target input
    exact ⟨rfl, unlink_undefines sound target input, unlink_of_free⟩
  · intro node result made
    exact remove_loses sound made

theorem Built.revised {graph result : Graph} (built : graph.Built) {requests : List Request}
    (applied : requests.foldlM (fun graph request => request.apply graph) graph = .ok result) : result.Built := by
  induction requests generalizing graph with
  | nil =>
    cases applied
    exact built
  | cons request requests ih =>
    rw [List.foldlM_cons, bind_eq_ok_iff] at applied
    obtain ⟨next, first, rest⟩ := applied
    exact ih (built.edit (Request.apply_revises first).1) rest

theorem edits_exact_knotted :
    let grow : Node := ⟨⟨0, 0⟩, .extend, "grow", [("amount", .number .one)]⟩
    let view : Node := ⟨⟨0, 1⟩, .preview, "view", []⟩
    let mesh : Node := ⟨⟨0, 2⟩, .uv, "mesh", []⟩
    let bare : Graph := { knotted with nodes := [grow], links := [] }
    let grown : Graph := { knotted with nodes := [grow, view, mesh], issued := 3 }
    let loose : Graph := { knotted with links := [⟨view.id, "output", view.id, "input"⟩] }
    let turned : Link := ⟨grow.id, "vec", grow.id, "value"⟩
    let tied : Graph := { knotted with links := [⟨view.id, "output", view.id, "input"⟩, turned] }
    knotted.Built ∧ (knotted.remove view = .ok bare ∧ knotted.Loses bare view) ∧
      (knotted.new .uv (some "mesh") [] = .ok (grown, mesh) ∧ knotted.Gains grown mesh ∧
        grown.remove mesh = .ok { knotted with issued := 3 }) ∧
      (knotted.unlink grow.id "value" = (loose, some ⟨view.id, "output", grow.id, "value"⟩) ∧
        knotted.Undefines loose grow.id "value") ∧
      loose.link grow "vec" grow "value" = .ok (tied, turned) ∧ loose.Defines tied turned ∧
      tied.unlink grow.id "value" = (loose, some turned) := by
  intro grow view mesh bare grown loose turned tied
  have built : knotted.Built := (Built.empty 0 standardName).revised knotting_knotted
  have looseBuilt : loose.Built := built.edit (.unlink knotted grow.id "value")
  obtain ⟨added, _, dropped, removed⟩ := edits_exact built
  have linked := (edits_exact looseBuilt).2.1 grow "vec" grow "value" tied turned rfl
  have made : knotted.new .uv (some "mesh") [] = .ok (grown, mesh) :=
    new_of_fresh .uv rfl rfl (by decide) (by decide)
  exact ⟨built, ⟨rfl, removed view bare rfl⟩, ⟨made, added _ _ _ _ _ made⟩, ⟨rfl, (dropped grow.id "value").2.1⟩, rfl,
    linked.2⟩

end ShaderGraph.Graph
