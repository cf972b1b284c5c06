import ShaderGraph.Graph.Edit

namespace ShaderGraph

theorem Binary64.ofRatio_finite_or (negative : Bool) (num den : Nat) :
    (Binary64.ofRatio negative num den).IsFinite ∨ Binary64.ofRatio negative num den = .infinite negative := by
  simp only [Binary64.ofRatio]
  split
  · exact .inl trivial
  · split <;> split <;> first | exact .inr rfl | exact .inl trivial

theorem Binary64.ofInt?_finite {n : Int} {x : Binary64} (found : Binary64.ofInt? n = some x) : x.IsFinite := by
  rcases ofRatio_finite_or (decide (n < 0)) n.natAbs 1 with finite | infinite
  · simp only [Binary64.ofInt?] at found
    split at found
    · cases found
    · cases found; exact finite
  · simp [Binary64.ofInt?, infinite] at found

theorem Value.toFinite_ok {value : Value} {x : Binary64} (finite : value.toFinite = .ok x) :
    x.IsFinite ∧ value.toNumber = .ok x := by
  cases value with
  | int n =>
    simp only [toFinite] at finite
    split at finite
    · rename_i y found
      cases finite
      exact ⟨Binary64.ofInt?_finite found, by simp [toNumber, found]⟩
    · cases finite
  | number y =>
    simp only [toFinite] at finite
    split at finite
    · rename_i holds
      cases finite
      exact ⟨holds, rfl⟩
    · cases finite
  | _ => cases finite

def Node.Accepted (node : Node) : Prop := ∃ given, node.kind.accept given = .ok node.params

theorem Node.Accepted.amount {node : Node} (accepted : node.Accepted) (kind : node.kind = .extend) :
    ∃ x : Binary64, x.IsFinite ∧ node.amount = .number x := by
  obtain ⟨given, accepted⟩ := accepted
  rw [kind] at accepted
  simp only [NodeKind.accept] at accepted
  split at accepted
  · rename_i x finite
    refine ⟨x, (Value.toFinite_ok finite).1, ?_⟩
    injection accepted with params
    rw [Node.amount, Params.get?, ← params]
    rfl
  · cases accepted

def Link.slot (link : Link) : NodeId × String := (link.target, link.input)

namespace Graph

inductive Edit : Graph → Graph → Prop
  | new {graph result : Graph} {kind : NodeKind} {name : Option String} {given : Params} {node : Node}
      (made : graph.new kind name given = .ok (result, node)) : Edit graph result
  | link {graph result : Graph} {source target : Node} {output input : String} {link : Link}
      (made : graph.link source output target input = .ok (result, link)) : Edit graph result
  | unlink (graph : Graph) (target : NodeId) (input : String) : Edit graph (graph.unlink target input).1
  | remove {graph result : Graph} {node : Node} (made : graph.remove node = .ok result) : Edit graph result
  | copy {graph result : Graph} {key : Nat} (made : graph.copy key = .ok result) : Edit graph result

inductive Built : Graph → Prop
  | empty (key : Nat) (name : String) : Built (Graph.empty key name)
  | edit {graph result : Graph} (built : graph.Built) (edit : graph.Edit result) : Built result

def Joins (graph : Graph) (link : Link) : Prop :=
  ∃ source ∈ graph.nodes, ∃ target ∈ graph.nodes, source.id = link.source ∧ target.id = link.target ∧
    source.kind.template.hasOutput link.output = true ∧ target.kind.template.hasInput link.input = true

structure Sound (graph : Graph) : Prop where
  issued : ∀ node ∈ graph.nodes, node.id.graph = graph.key ∧ node.id.serial < graph.issued
  distinct : (graph.nodes.map Node.id).Nodup
  accepted : ∀ node ∈ graph.nodes, node.Accepted
  joins : ∀ link ∈ graph.links, graph.Joins link
  single : (graph.links.map Link.slot).Nodup

theorem sound_empty (key : Nat) (name : String) : (Graph.empty key name).Sound :=
  ⟨by simp [empty], by simp [empty], by simp [empty], by simp [empty], by simp [empty]⟩

theorem Joins.mono {graph result : Graph} {link : Link} (joins : graph.Joins link)
    (kept : ∀ node ∈ graph.nodes, node.id = link.source ∨ node.id = link.target → node ∈ result.nodes) :
    result.Joins link := by
  obtain ⟨source, hs, target, ht, sourceId, targetId, declared⟩ := joins
  exact ⟨source, kept source hs (.inl sourceId), target, kept target ht (.inr targetId), sourceId, targetId, declared⟩

theorem Sound.new {graph result : Graph} {kind : NodeKind} {name : Option String} {given : Params} {node : Node}
    (sound : graph.Sound) (made : graph.new kind name given = .ok (result, node)) : result.Sound := by
  simp only [new_eq, Node.create, bind_eq_ok_iff, pure, Except.pure, Except.ok.injEq, Prod.mk.injEq] at made
  obtain ⟨_, _, _, ⟨params, accepted, rfl⟩, rfl, rfl⟩ := made
  refine ⟨?_, ?_, ?_, ?_, sound.single⟩
  · intro node member
    rcases List.mem_append.mp member with member | member
    · have ids := sound.issued node member
      exact ⟨ids.1, Nat.lt_succ_of_lt ids.2⟩
    · rw [List.mem_singleton.mp member]
      exact ⟨rfl, Nat.lt_succ_self _⟩
  · have fresh : ∀ node ∈ graph.nodes, node.id ≠ ⟨graph.key, graph.issued⟩ := by
      intro node member same
      have ids := (sound.issued node member).2
      rw [same] at ids
      exact Nat.lt_irrefl _ ids
    simp only [List.map_append, List.map_cons, List.map_nil, List.nodup_append, sound.distinct, true_and]
    refine ⟨by simp, ?_⟩
    intro id used other issued
    obtain ⟨node, member, rfl⟩ := List.mem_map.mp used
    rw [List.mem_singleton.mp issued]
    exact fresh node member
  · intro node member
    rcases List.mem_append.mp member with member | member
    · exact sound.accepted node member
    · rw [List.mem_singleton.mp member]
      exact ⟨given, accepted⟩
  · intro link member
    exact (sound.joins link member).mono fun node member _ => List.mem_append_left _ member

theorem Sound.link {graph result : Graph} {source target : Node} {output input : String} {link : Link}
    (sound : graph.Sound) (made : graph.link source output target input = .ok (result, link)) : result.Sound := by
  simp only [link_eq, bind_eq_ok_iff, member_eq_ok_iff, ensure_eq_ok_iff, pure, Except.pure, Except.ok.injEq,
    Prod.mk.injEq] at made
  obtain ⟨source, hs, target, ht, _, hasOutput, _, hasInput, _, free, rfl, rfl⟩ := made
  refine ⟨sound.issued, sound.distinct, sound.accepted, ?_, ?_⟩
  · intro link member
    rcases List.mem_append.mp member with member | member
    · exact sound.joins link member
    · rw [List.mem_singleton.mp member]
      exact ⟨source, List.mem_of_find?_eq_some hs, target, List.mem_of_find?_eq_some ht, rfl, rfl, hasOutput, hasInput⟩
  · simp only [inputLink?, Option.isNone_iff_eq_none, List.find?_eq_none, Bool.and_eq_true, beq_iff_eq] at free
    simp only [List.map_append, List.map_cons, List.map_nil, List.nodup_append, sound.single, true_and]
    refine ⟨by simp, ?_⟩
    intro slot used other added
    obtain ⟨link, member, rfl⟩ := List.mem_map.mp used
    rw [List.mem_singleton.mp added]
    exact fun same => free link member (Prod.mk.inj same)

theorem Sound.unlink {graph : Graph} (sound : graph.Sound) (target : NodeId) (input : String) :
    (graph.unlink target input).1.Sound := by
  refine ⟨sound.issued, sound.distinct, sound.accepted, ?_, sound.single.sublist (List.filter_sublist.map _)⟩
  intro link member
  exact (sound.joins link (List.mem_filter.mp member).1).mono fun node member _ => member

theorem Sound.remove {graph result : Graph} {node : Node} (sound : graph.Sound)
    (made : graph.remove node = .ok result) : result.Sound := by
  simp only [remove_eq, bind_eq_ok_iff, pure, Except.pure, Except.ok.injEq] at made
  obtain ⟨own, _, rfl⟩ := made
  refine ⟨?_, ?_, ?_, ?_, sound.single.sublist (List.filter_sublist.map _)⟩
  · exact fun node member => sound.issued node (List.mem_filter.mp member).1
  · exact sound.distinct.sublist (List.filter_sublist.map _)
  · exact fun node member => sound.accepted node (List.mem_filter.mp member).1
  · intro link member
    obtain ⟨member, kept⟩ := List.mem_filter.mp member
    simp only [Bool.and_eq_true, bne_iff_ne] at kept
    refine (sound.joins link member).mono fun node member ends => List.mem_filter.mpr ⟨member, ?_⟩
    rw [bne_iff_ne]
    rcases ends with same | same
    · rw [same]; exact kept.1
    · rw [same]; exact kept.2

theorem copied_nodes {nodes copies : List Node} {key : Nat}
    (made : nodes.mapM (fun node => Node.create (node.id.moved key) node.kind node.name node.params) = .ok copies) :
    copies.map (fun node => (node.id, node.kind, node.name)) =
        nodes.map (fun node => (node.id.moved key, node.kind, node.name)) ∧
      ∀ copy ∈ copies, copy.Accepted := by
  induction nodes generalizing copies with
  | nil =>
    cases made
    simp
  | cons node nodes ih =>
    simp only [List.mapM_cons, Node.create, bind_eq_ok_iff, pure, Except.pure, Except.ok.injEq] at made ih
    obtain ⟨_, ⟨params, accepted, rfl⟩, rest, made, rfl⟩ := made
    obtain ⟨same, all⟩ := ih made
    refine ⟨by simp [same], ?_⟩
    intro copy member
    rcases List.mem_cons.mp member with rfl | member
    · exact ⟨node.params, accepted⟩
    · exact all copy member

theorem moved_injective {first second : NodeId} {key : Nat} (same : first.graph = second.graph)
    (moved : first.moved key = second.moved key) : first = second := by
  cases first
  cases second
  simp_all [NodeId.moved]

theorem Sound.copied {graph : Graph} {key : Nat} {copies : List Node} (sound : graph.Sound)
    (made : graph.nodes.mapM (fun node => Node.create (node.id.moved key) node.kind node.name node.params) = .ok copies) :
    Sound { graph with key := key, nodes := copies, links := graph.links.map (·.moved key) } := by
  obtain ⟨same, accepted⟩ := copied_nodes made
  have forth (node : Node) (member : node ∈ graph.nodes) :
      ∃ copy ∈ copies, copy.id = node.id.moved key ∧ copy.kind = node.kind := by
    have image : (node.id.moved key, node.kind, node.name) ∈ copies.map (fun node => (node.id, node.kind, node.name)) :=
      same ▸ List.mem_map_of_mem member
    obtain ⟨copy, member, fields⟩ := List.mem_map.mp image
    obtain ⟨id, rest⟩ := Prod.mk.inj fields
    exact ⟨copy, member, id, (Prod.mk.inj rest).1⟩
  have ids : copies.map Node.id = graph.nodes.map (fun node => node.id.moved key) := by
    have firsts := congrArg (List.map Prod.fst) same
    simpa [Function.comp_def] using firsts
  refine ⟨?_, ?_, accepted, ?_, ?_⟩
  · intro copy member
    have image : copy.id ∈ graph.nodes.map (fun node => node.id.moved key) := ids ▸ List.mem_map_of_mem member
    obtain ⟨node, member, moved⟩ := List.mem_map.mp image
    rw [← moved]
    exact ⟨rfl, (sound.issued node member).2⟩
  · rw [ids]
    have distinct := sound.distinct
    simp only [List.Nodup, List.pairwise_map] at distinct ⊢
    refine distinct.imp_of_mem ?_
    intro first second hf hs different moved
    exact different (moved_injective ((sound.issued first hf).1.trans (sound.issued second hs).1.symm) moved)
  · intro link moved
    obtain ⟨original, member, rfl⟩ := List.mem_map.mp moved
    obtain ⟨source, hs, target, ht, sourceId, targetId, hasOutput, hasInput⟩ := sound.joins original member
    obtain ⟨sourceCopy, memberSource, idSource, kindSource⟩ := forth source hs
    obtain ⟨targetCopy, memberTarget, idTarget, kindTarget⟩ := forth target ht
    refine ⟨sourceCopy, memberSource, targetCopy, memberTarget, ?_, ?_, ?_, ?_⟩
    · rw [idSource, sourceId]; rfl
    · rw [idTarget, targetId]; rfl
    · rw [kindSource]; exact hasOutput
    · rw [kindTarget]; exact hasInput
  · have inGraph (link : Link) (member : link ∈ graph.links) : link.target.graph = graph.key := by
      obtain ⟨_, _, target, ht, _, targetId, _⟩ := sound.joins link member
      rw [← targetId]
      exact (sound.issued target ht).1
    have single := sound.single
    simp only [List.Nodup, List.pairwise_map] at single ⊢
    refine single.imp_of_mem ?_
    intro first second hf hs different shared
    obtain ⟨target, input⟩ := Prod.mk.inj shared
    exact different (Prod.ext (moved_injective ((inGraph first hf).trans (inGraph second hs).symm) target) input)

theorem Sound.copy {graph result : Graph} {key : Nat} (sound : graph.Sound) (made : graph.copy key = .ok result) :
    result.Sound := by
  obtain ⟨copies, created, rfl⟩ := copy_eq_ok made
  exact sound.copied created

theorem Edit.sound {graph result : Graph} (edit : graph.Edit result) (sound : graph.Sound) : result.Sound := by
  cases edit with
  | new made => exact sound.new made
  | link made => exact sound.link made
  | unlink target input => exact sound.unlink _ _
  | remove made => exact sound.remove made
  | copy made => exact sound.copy made

theorem Built.sound {graph : Graph} (built : graph.Built) : graph.Sound := by
  induction built with
  | empty key name => exact sound_empty key name
  | edit _ edit ih => exact edit.sound ih

def freeNumber (graph : Graph) (base : String) (n : Nat) : Bool :=
  decide (numberedName base n ∉ graph.nodes.map Node.name)

/-- The set of the names in use answers as their list does. -/
theorem uniqueName_eq (graph : Graph) (base : String) :
    graph.uniqueName base = if base ∈ graph.nodes.map Node.name then
      numberedName base (searchFrom (graph.freeNumber base) 1 graph.nodes.length) else base := by
  have listed (name : String) : (Std.HashSet.ofList (graph.nodes.map Node.name)).contains name =
      decide (name ∈ graph.nodes.map Node.name) := by
    rw [Std.HashSet.contains_ofList, List.contains_eq_mem]
  have tests : (fun n => !decide (numberedName base n ∈ graph.nodes.map Node.name)) = graph.freeNumber base := by
    funext n
    rw [freeNumber, decide_not]
  simp only [uniqueName, listed, tests, decide_eq_true_eq]

theorem uniqueName_of_fresh {graph : Graph} {base : String} (fresh : base ∉ graph.nodes.map Node.name) :
    graph.uniqueName base = base := by
  rw [uniqueName_eq, if_neg fresh]

theorem new_of_fresh {graph : Graph} (kind : NodeKind) {name : String} {given params : Params}
    (keys : given.checkKeys = .ok ()) (accepted : kind.accept given = .ok params)
    (fresh : name ∉ graph.nodes.map Node.name) (named : name ≠ "") :
    graph.new kind (some name) given = .ok ({ graph with
      nodes := graph.nodes ++ [⟨⟨graph.key, graph.issued⟩, kind, name, params⟩], issued := graph.issued + 1 },
      ⟨⟨graph.key, graph.issued⟩, kind, name, params⟩) := by
  simp [new_eq, keys, named, uniqueName_of_fresh fresh, Node.create, accepted, bind, Except.bind, pure, Except.pure]

theorem Built.add {graph : Graph} (built : graph.Built) (kind : NodeKind) (name : String) {params : Params}
    (accepted : kind.accept [] = .ok params) (fresh : name ∉ graph.nodes.map Node.name) (named : name ≠ "") :
    Built { graph with
      nodes := graph.nodes ++ [⟨⟨graph.key, graph.issued⟩, kind, name, params⟩], issued := graph.issued + 1 } :=
  built.edit (.new (new_of_fresh kind rfl accepted fresh named))

theorem Built.join {graph result : Graph} (built : graph.Built) (source : Node) (output : String) (target : Node)
    (input : String) {link : Link} (made : graph.link source output target input = .ok (result, link)) :
    result.Built :=
  built.edit (.link made)

def swapped : Graph where
  key := 0
  name := standardName
  nodes := [⟨⟨0, 0⟩, .uv, "uv", []⟩, ⟨⟨0, 1⟩, .component, "split", []⟩, ⟨⟨0, 2⟩, .vector, "join", []⟩,
    ⟨⟨0, 3⟩, .preview, "view", []⟩]
  links := [⟨⟨0, 0⟩, "uv", ⟨0, 1⟩, "value"⟩, ⟨⟨0, 1⟩, "y", ⟨0, 2⟩, "x"⟩, ⟨⟨0, 1⟩, "x", ⟨0, 2⟩, "y"⟩,
    ⟨⟨0, 2⟩, "vec", ⟨0, 3⟩, "input"⟩]
  issued := 4

theorem swapped_built : swapped.Built := by
  have uv := (Built.empty 0 standardName).add .uv "uv" rfl (by decide) (by decide)
  have split := uv.add .component "split" rfl (by decide) (by decide)
  have vector := split.add .vector "join" rfl (by decide) (by decide)
  have view := vector.add .preview "view" rfl (by decide) (by decide)
  have first := view.join ⟨⟨0, 0⟩, .uv, "uv", []⟩ "uv" ⟨⟨0, 1⟩, .component, "split", []⟩ "value" rfl
  have second := first.join ⟨⟨0, 1⟩, .component, "split", []⟩ "y" ⟨⟨0, 2⟩, .vector, "join", []⟩ "x" rfl
  have third := second.join ⟨⟨0, 1⟩, .component, "split", []⟩ "x" ⟨⟨0, 2⟩, .vector, "join", []⟩ "y" rfl
  exact third.join ⟨⟨0, 2⟩, .vector, "join", []⟩ "vec" ⟨⟨0, 3⟩, .preview, "view", []⟩ "input" rfl

/-- A vector and a lane of its own: the cycle starts behind the first lane of the split, and a lane of the coordinates
    leads into it. -/
def entangled : Graph where
  key := 0
  name := standardName
  nodes := [⟨⟨0, 0⟩, .uv, "uv", []⟩, ⟨⟨0, 1⟩, .component, "split", []⟩, ⟨⟨0, 2⟩, .vector, "join", []⟩,
    ⟨⟨0, 3⟩, .preview, "view", []⟩]
  links := [⟨⟨0, 0⟩, "x", ⟨0, 2⟩, "x"⟩, ⟨⟨0, 2⟩, "vec", ⟨0, 1⟩, "value"⟩, ⟨⟨0, 1⟩, "y", ⟨0, 2⟩, "y"⟩,
    ⟨⟨0, 1⟩, "x", ⟨0, 3⟩, "input"⟩]
  issued := 4

theorem entangled_built : entangled.Built := by
  have uv := (Built.empty 0 standardName).add .uv "uv" rfl (by decide) (by decide)
  have split := uv.add .component "split" rfl (by decide) (by decide)
  have vector := split.add .vector "join" rfl (by decide) (by decide)
  have view := vector.add .preview "view" rfl (by decide) (by decide)
  have first := view.join ⟨⟨0, 0⟩, .uv, "uv", []⟩ "x" ⟨⟨0, 2⟩, .vector, "join", []⟩ "x" rfl
  have second := first.join ⟨⟨0, 2⟩, .vector, "join", []⟩ "vec" ⟨⟨0, 1⟩, .component, "split", []⟩ "value" rfl
  have third := second.join ⟨⟨0, 1⟩, .component, "split", []⟩ "y" ⟨⟨0, 2⟩, .vector, "join", []⟩ "y" rfl
  exact third.join ⟨⟨0, 1⟩, .component, "split", []⟩ "x" ⟨⟨0, 3⟩, .preview, "view", []⟩ "input" rfl

end Graph

end ShaderGraph
