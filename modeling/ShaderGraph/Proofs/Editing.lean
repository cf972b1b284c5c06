import ShaderGraph.Proofs.Graph.UniqueNames
import ShaderGraph.Proofs.Graph.Upstream
import ShaderGraph.Workspace.Editing

namespace ShaderGraph

def Node.moved (node : Node) (graph : Nat) : Node :=
  { node with id := node.id.moved graph }

theorem Node.Accepted.again {node : Node} (accepted : node.Accepted) : node.kind.accept node.params = .ok node.params := by
  obtain ⟨given, accepted⟩ := accepted
  by_cases isExtend : node.kind = .extend
  · rw [isExtend] at accepted ⊢
    simp only [NodeKind.accept] at accepted
    split at accepted
    · rename_i x finite
      injection accepted with params
      rw [← params]
      have number : (Value.number x).toFinite = .ok x := by rw [Value.toFinite, if_pos (Value.toFinite_ok finite).1]
      have amount : (Params.declared NodeKind.extend.params
          ((Params.declared NodeKind.extend.params given).set "amount" (.number x))).get? "amount" = some (.number x) := rfl
      simp only [NodeKind.accept, amount, Option.getD_some, number]
      rfl
    · cases accepted
  · have none (kind : NodeKind) (other : kind ≠ .extend) (given : Params) : kind.accept given = .ok [] := by
      cases kind <;> first | rfl | exact absurd rfl other
    rw [none _ isExtend] at accepted ⊢
    exact accepted

namespace Graph

/-- A name and an identity belong to one node, a link joins declared sockets of two of the nodes, and what is stored at
    the input of a link is that link. -/
structure Consistent (graph : Graph) : Prop where
  names : (graph.nodes.map Node.name).Nodup
  identities : (graph.nodes.map Node.id).Nodup
  joins : ∀ link ∈ graph.links, graph.Joins link
  single : (graph.links.map Link.slot).Nodup
  stored : ∀ link ∈ graph.links, graph.inputLink? link.target link.input = some link

theorem Built.consistent {graph : Graph} (built : graph.Built) : graph.Consistent :=
  ⟨built.names, built.sound.distinct, built.sound.joins, built.sound.single,
    fun _ member => inputLink?_of_mem built.sound member⟩

inductive Request where
  | new (kind : NodeKind) (name : Option String) (given : Params)
  | link (source : Node) (output : String) (target : Node) (input : String)
  | unlink (target : Node) (input : String)
  | remove (node : Node)

namespace Request

def Admissible (graph : Graph) : Request → Prop
  | new kind _ given => (∀ entry ∈ given, entry.1 ∉ Params.reserved) ∧
      (kind = .extend → ∀ amount, given.get? "amount" = some amount → ∃ x, amount.toFinite = .ok x)
  | link source output target input =>
      (∃ own ∈ graph.nodes, own.id = source.id ∧ own.kind.template.hasOutput output = true) ∧
      (∃ own ∈ graph.nodes, own.id = target.id ∧ own.kind.template.hasInput input = true) ∧
      ∀ link ∈ graph.links, link.slot ≠ (target.id, input)
  | unlink _ _ => True
  | remove node => ∃ own ∈ graph.nodes, own.id = node.id

def Revises (graph result : Graph) : Request → Prop
  | new kind name _ => result.links = graph.links ∧ ∃ node, result.nodes = graph.nodes ++ [node] ∧ node.kind = kind ∧
      ∀ asked, name = some asked → asked ≠ "" → asked ∉ graph.nodes.map Node.name → node.name = asked
  | link source output target input =>
      result.nodes = graph.nodes ∧ result.links = graph.links ++ [⟨source.id, output, target.id, input⟩]
  | unlink target input =>
      result.nodes = graph.nodes ∧ result.links = graph.links.filter (fun link => link.slot ≠ (target.id, input))
  | remove node => result.nodes = graph.nodes.filter (fun other => other.id ≠ node.id) ∧
      result.links = graph.links.filter (fun link => link.source ≠ node.id ∧ link.target ≠ node.id)

end Request

theorem Sound.last_fresh {graph result : Graph} {relay : Node} (sound : result.Sound)
    (nodes : result.nodes = graph.nodes ++ [relay]) : ∀ node ∈ graph.nodes, node.id ≠ relay.id := by
  intro node inside same
  have distinct := sound.distinct
  rw [nodes, List.map_append, List.map_singleton, List.nodup_append] at distinct
  exact distinct.2.2 node.id (List.mem_map_of_mem inside) relay.id (by simp) same

theorem unlink_links (graph : Graph) (target : NodeId) (input : String) :
    (graph.unlink target input).1.links = graph.links.filter (fun link => link.slot ≠ (target, input)) := by
  apply List.filter_congr
  intro link _
  rw [Bool.eq_iff_iff]
  simp [Link.slot]

theorem accept_iff (kind : NodeKind) (given : Params) :
    (∃ params, kind.accept given = .ok params) ↔
      (kind = .extend → ∀ amount, given.get? "amount" = some amount → ∃ x, amount.toFinite = .ok x) := by
  by_cases isExtend : kind = .extend
  · subst isExtend
    have merged : (Params.declared NodeKind.extend.params given).get? "amount" =
        some ((given.get? "amount").getD (.number .zero)) := rfl
    simp only [NodeKind.accept, merged, Option.getD_some, forall_const]
    cases asked : given.get? "amount" with
    | none =>
      have zero : (Value.number .zero).toFinite = .ok .zero := rfl
      simp [zero]
    | some amount => cases finite : amount.toFinite <;> simp [finite]
  · have accepted : kind.accept given = .ok (Params.declared kind.params given) := by
      cases kind <;> first | rfl | exact absurd rfl isExtend
    simp [accepted, isExtend]

theorem new_iff (graph : Graph) (kind : NodeKind) (name : Option String) (given : Params) :
    (∃ result, graph.new kind name given = .ok result) ↔ (Request.new kind name given).Admissible graph := by
  show _ ↔ (∀ entry ∈ given, entry.1 ∉ Params.reserved) ∧ _
  rw [← accept_iff]
  simp only [new_eq, Node.create, bind_eq_ok_iff, Params.checkKeys_eq_ok_iff, pure, Except.pure]
  constructor
  · rintro ⟨_, _, free, _, ⟨params, accepted, _⟩, _⟩
    exact ⟨free, params, accepted⟩
  · rintro ⟨free, params, accepted⟩
    exact ⟨_, (), free, _, ⟨params, accepted, rfl⟩, rfl⟩

theorem member_iff {graph : Graph} (sound : graph.Sound) (id : NodeId) (property : Node → Prop) :
    (∃ own, graph.find? id = some own ∧ property own) ↔ ∃ own ∈ graph.nodes, own.id = id ∧ property own := by
  constructor
  · rintro ⟨own, found, holds⟩
    obtain ⟨member, same⟩ := mem_of_find? found
    exact ⟨own, member, same, holds⟩
  · rintro ⟨own, member, rfl, holds⟩
    exact ⟨own, find?_of_mem sound member, holds⟩

theorem link_iff {graph : Graph} (sound : graph.Sound) (source : Node) (output : String) (target : Node) (input : String) :
    (∃ result, graph.link source output target input = .ok result) ↔
      (Request.link source output target input).Admissible graph := by
  simp only [Request.Admissible]
  rw [← member_iff sound, ← member_iff sound]
  simp only [link_eq, bind_eq_ok_iff, member_eq_ok_iff, ensure_eq_ok_iff, pure, Except.pure, inputLink?,
    Option.isNone_iff_eq_none, List.find?_eq_none, Bool.and_eq_true, beq_iff_eq]
  constructor
  · rintro ⟨_, origin, foundOrigin, own, foundOwn, _, hasOutput, _, hasInput, _, free, _⟩
    refine ⟨⟨origin, foundOrigin, hasOutput⟩, ⟨own, foundOwn, hasInput⟩, ?_⟩
    intro link member same
    exact free link member (by rw [(mem_of_find? foundOwn).2]; exact Prod.mk.inj same)
  · rintro ⟨⟨origin, foundOrigin, hasOutput⟩, ⟨own, foundOwn, hasInput⟩, free⟩
    refine ⟨_, origin, foundOrigin, own, foundOwn, (), hasOutput, (), hasInput, (), ?_, rfl⟩
    intro link member same
    exact free link member (Prod.ext (same.1.trans (mem_of_find? foundOwn).2) same.2)

theorem remove_iff {graph : Graph} (sound : graph.Sound) (node : Node) :
    (∃ result, graph.remove node = .ok result) ↔ (Request.remove node).Admissible graph := by
  have member := member_iff sound node.id fun _ => True
  simp only [and_true] at member
  rw [Request.Admissible, ← member]
  simp [remove_eq, bind_eq_ok_iff, member_eq_ok_iff, pure, Except.pure]

/-- A sound graph comes out of its nodes and its links when they are joined one after the other: each finds its ends, with
    sockets that are declared, and its input without a link. -/
theorem Sound.rejoins {graph : Graph} (sound : graph.Sound) (joined rest : List Link)
    (all : graph.links = joined ++ rest) : rest.foldlM rejoin { graph with links := joined } = .ok graph := by
  induction rest generalizing joined with
  | nil =>
    rw [List.append_nil] at all
    rw [List.foldlM_nil, ← all]
    rfl
  | cons link rest ih =>
    have member : link ∈ graph.links := by simp [all]
    obtain ⟨source, hs, target, ht, sourceId, targetId, hasOutput, hasInput⟩ := sound.joins link member
    have part : Sound { graph with links := joined } := by
      refine ⟨sound.issued, sound.distinct, sound.accepted, ?_, ?_⟩
      · intro other earlier
        exact sound.joins other (by simp [all, earlier])
      · have single := sound.single
        rw [all, List.map_append, List.nodup_append] at single
        exact single.1
    have free : ∀ other ∈ joined, other.slot ≠ (target.id, link.input) := by
      intro other earlier same
      have single := sound.single
      rw [all, List.map_append, List.nodup_append] at single
      refine single.2.2 other.slot (List.mem_map_of_mem earlier) link.slot (by simp) ?_
      rw [same, targetId, Link.slot]
    obtain ⟨⟨next, added⟩, linked⟩ := (link_iff part source link.output target link.input).mpr
      ⟨⟨source, hs, rfl, hasOutput⟩, ⟨target, ht, rfl, hasInput⟩, free⟩
    have foundSource := find?_of_mem part hs
    have foundTarget := find?_of_mem part ht
    rw [sourceId] at foundSource
    rw [targetId] at foundTarget
    have step : rejoin { graph with links := joined } link = .ok next := by
      simp only [rejoin, bind_eq_ok_iff, own_eq_ok_iff]
      exact ⟨source, foundSource, target, foundTarget, _, linked, rfl⟩
    have grown := rejoin_eq_ok step
    rw [List.foldlM_cons, step]
    show rest.foldlM rejoin next = .ok graph
    rw [grown]
    exact ih (joined ++ [link]) (by simp [all])

def moved (graph : Graph) (key : Nat) : Graph :=
  { graph with key := key, nodes := graph.nodes.map (·.moved key), links := graph.links.map (·.moved key) }

theorem created_again {nodes : List Node} (accepted : ∀ node ∈ nodes, node.Accepted) (key : Nat) :
    nodes.mapM (fun node => Node.create (node.id.moved key) node.kind node.name node.params) =
      .ok (nodes.map (·.moved key)) := by
  induction nodes with
  | nil => rfl
  | cons node nodes ih =>
    have rest := ih fun other member => accepted other (List.mem_cons_of_mem _ member)
    have again := (accepted node List.mem_cons_self).again
    simp only [List.mapM_cons, Node.create, bind_eq_ok_iff, pure, Except.pure] at rest ⊢
    exact ⟨_, ⟨node.params, again, rfl⟩, _, rest, rfl⟩

theorem copy_eq {graph : Graph} (sound : graph.Sound) (key : Nat) : graph.copy key = .ok (graph.moved key) := by
  have created := created_again sound.accepted key
  have joined := (sound.copied created).rejoins [] _ rfl
  simp only [Graph.copy, bind_eq_ok_iff, mapError_eq_ok_iff]
  exact ⟨_, created, joined⟩

end Graph

/-- The ways to refuse an edit: a failure about the members, the sockets or the links of a graph, parameters that are not
    accepted, and a handle of nothing. -/
def Error.RefusesEdit : Error → Prop
  | .failure cause => cause.family ∈ [.graph, .unknownOutputSocket, .invalidLink]
  | .params _ | .unknownHandle _ => True
  | _ => False

namespace Graph

namespace Request

def apply (graph : Graph) : Request → Except Error Graph
  | new kind name given => match graph.new kind name given with
    | .ok (result, _) => .ok result
    | .error cause => .error (.params cause)
  | link source output target input => match graph.link source output target input with
    | .ok (result, _) => .ok result
    | .error cause => .error (.failure cause)
  | unlink target input => .ok (graph.unlink target.id input).1
  | remove node => match graph.remove node with
    | .ok result => .ok result
    | .error cause => .error (.failure cause)

theorem apply_iff {graph : Graph} (sound : graph.Sound) (request : Request) :
    (∃ result, request.apply graph = .ok result) ↔ request.Admissible graph := by
  cases request with
  | new kind name given =>
    rw [← new_iff, apply]
    cases graph.new kind name given <;> simp
  | link source output target input =>
    rw [← link_iff sound, apply]
    cases graph.link source output target input <;> simp
  | unlink target input => simp [apply, Admissible]
  | remove node =>
    rw [← remove_iff sound, apply]
    cases graph.remove node <;> simp

theorem member_refused {graph : Graph} {node : Node} {cause : Failure} (refused : graph.member node = .error cause) :
    (Error.failure cause).RefusesEdit := by
  unfold member at refused
  split at refused
  · cases refused
  · cases refused
    simp [Error.RefusesEdit, Failure.family]

theorem link_refused {graph : Graph} {source target : Node} {output input : String} {cause : Failure}
    (refused : graph.link source output target input = .error cause) : (Error.failure cause).RefusesEdit := by
  simp only [link_eq, bind_eq_error_iff, ensure_eq_error_iff, pure, Except.pure, reduceCtorEq, and_false, exists_false,
    or_false] at refused
  rcases refused with outside | ⟨_, _, outside | ⟨_, _, ⟨_, rfl⟩ | ⟨_, _, ⟨_, rfl⟩ | ⟨_, _, _, rfl⟩⟩⟩⟩
  · exact member_refused outside
  · exact member_refused outside
  all_goals simp [Error.RefusesEdit, Failure.family]

theorem remove_refused {graph : Graph} {node : Node} {cause : Failure} (refused : graph.remove node = .error cause) :
    (Error.failure cause).RefusesEdit := by
  simp only [remove_eq, bind_eq_error_iff, pure, Except.pure, reduceCtorEq, and_false, exists_false, or_false] at refused
  exact member_refused refused

theorem apply_refused {graph : Graph} {request : Request} {error : Error} (refused : request.apply graph = .error error) :
    error.RefusesEdit := by
  cases request with
  | new kind name given =>
    cases made : graph.new kind name given <;> simp only [apply, made] at refused <;> cases refused
    trivial
  | link source output target input =>
    cases made : graph.link source output target input <;> simp only [apply, made] at refused <;> cases refused
    exact link_refused made
  | unlink target input => cases refused
  | remove node =>
    cases made : graph.remove node <;> simp only [apply, made] at refused <;> cases refused
    exact remove_refused made

theorem new_revises {graph result : Graph} {kind : NodeKind} {name : Option String} {given : Params} {node : Node}
    (made : graph.new kind name given = .ok (result, node)) :
    (new kind name given).Revises graph result ∧ result.key = graph.key := by
  simp only [new_eq, Node.create, bind_eq_ok_iff, pure, Except.pure, Except.ok.injEq, Prod.mk.injEq] at made
  obtain ⟨_, _, _, ⟨_, _, rfl⟩, rfl, rfl⟩ := made
  refine ⟨⟨rfl, _, rfl, rfl, ?_⟩, rfl⟩
  intro asked given named free
  subst given
  simp only [if_neg named]
  exact uniqueName_of_fresh free

theorem link_revises {graph result : Graph} {source target : Node} {output input : String} {link : Link}
    (made : graph.link source output target input = .ok (result, link)) :
    (Request.link source output target input).Revises graph result ∧ result.key = graph.key := by
  obtain ⟨rfl, rfl, _⟩ := link_eq_ok made
  exact ⟨⟨rfl, rfl⟩, rfl⟩

theorem unlink_revises (graph : Graph) (target : Node) (input : String) :
    (unlink target input).Revises graph (graph.unlink target.id input).1 :=
  ⟨rfl, unlink_links graph target.id input⟩

theorem remove_revises {graph result : Graph} {node : Node} (made : graph.remove node = .ok result) :
    (remove node).Revises graph result ∧ result.key = graph.key := by
  obtain rfl := remove_eq_ok made
  refine ⟨⟨?_, ?_⟩, rfl⟩
  · apply List.filter_congr
    intro other _
    rw [Bool.eq_iff_iff]
    simp
  · apply List.filter_congr
    intro link _
    rw [Bool.eq_iff_iff]
    simp

theorem apply_revises {graph result : Graph} {request : Request} (applied : request.apply graph = .ok result) :
    graph.Edit result ∧ request.Revises graph result ∧ result.key = graph.key := by
  cases request with
  | new kind name given =>
    cases made : graph.new kind name given <;> simp only [apply, made] at applied <;> cases applied
    exact ⟨.new made, new_revises made⟩
  | link source output target input =>
    cases made : graph.link source output target input <;> simp only [apply, made] at applied <;> cases applied
    exact ⟨.link made, link_revises made⟩
  | unlink target input =>
    cases applied
    exact ⟨.unlink graph target.id input, unlink_revises graph target input, rfl⟩
  | remove node =>
    cases made : graph.remove node <;> simp only [apply, made] at applied <;> cases applied
    exact ⟨.remove made, remove_revises made⟩

end Request

end Graph

namespace Workspace

def tree? (workspace : Workspace) (handle : String) : Option Graph :=
  (workspace.graphs.number? handle).bind workspace.graphs.get?

theorem outcome_item_some {workspace : Workspace} {handle : String} {number : Nat} {tree : Graph}
    (held : workspace.graphs.number? handle = some number) (found : workspace.graphs.get? number = some tree) :
    (item graphs handle).outcome workspace = (.ok (number, tree), workspace) := by
  simp [item, Step.outcome_bind, held, found]

theorem outcome_item_none {workspace : Workspace} {handle : String} (unknown : workspace.tree? handle = none) :
    (item graphs handle).outcome workspace = (.error (.unknownHandle handle), workspace) := by
  unfold tree? at unknown
  cases held : workspace.graphs.number? handle with
  | none => simp [item, Step.outcome_bind, held]
  | some number =>
    rw [held, Option.bind_some] at unknown
    simp [item, Step.outcome_bind, held, unknown]

theorem outcome_graph_some {workspace : Workspace} {handle : String} {tree : Graph}
    (known : workspace.tree? handle = some tree) : (graph handle).outcome workspace = (.ok tree, workspace) := by
  obtain ⟨number, held, found⟩ := Option.bind_eq_some_iff.mp known
  rw [graph, Step.outcome_bind_ok (outcome_item_some held found), Step.outcome_pure]

theorem outcome_graph_none {workspace : Workspace} {handle : String} (unknown : workspace.tree? handle = none) :
    (graph handle).outcome workspace = (.error (.unknownHandle handle), workspace) := by
  rw [graph, Step.outcome_bind_error (outcome_item_none unknown)]

inductive Call where
  | create (handle : String) (name : Option String)
  | revise (handle : String) (request : Graph.Request)
  | copy (source handle : String)

def revise (handle : String) : Graph.Request → Working Unit
  | .new kind name given => do let _ ← newNode handle kind name given
  | .link source output target input => do let _ ← link handle source output target input
  | .unlink target input => do let _ ← unlink handle target input
  | .remove node => do let _ ← remove handle node

namespace Call

def run : Call → Working Unit
  | create handle name => do let _ ← newGraph handle name
  | revise handle request => Workspace.revise handle request
  | copy source handle => do let _ ← Workspace.copy source handle

def Admissible (workspace : Workspace) : Call → Prop
  | create _ _ => True
  | revise handle request => ∃ tree, workspace.tree? handle = some tree ∧ request.Admissible tree
  | copy source _ => ∃ tree, workspace.tree? source = some tree

def Effect (workspace : Workspace) (number : Nat) (result : Graph) : Call → Prop
  | create _ _ => number = workspace.graphs.size ∧ result.nodes = [] ∧ result.links = []
  | revise handle request => workspace.graphs.number? handle = some number ∧
      ∃ tree, workspace.graphs.get? number = some tree ∧ request.Revises tree result
  | copy source _ => number = workspace.graphs.size ∧ ∃ tree, workspace.tree? source = some tree ∧
      result.nodes.map (fun node => (node.id, node.kind, node.name)) =
        tree.nodes.map (fun node => (node.id.moved number, node.kind, node.name)) ∧
      result.links = tree.links.map (·.moved number)

inductive Conducts (before : Workspace) (call : Call) : Except Error Unit × Workspace → Prop
  | refused {error : Error} (inadmissible : ¬call.Admissible before) (cause : error.RefusesEdit) :
      Conducts before call (.error error, before)
  | done {after : Workspace} {number : Nat} {result : Graph} (admissible : call.Admissible before) (built : result.Built)
      (key : result.key = number) (effect : call.Effect before number result)
      (here : after.graphs.get? number = some result)
      (elsewhere : ∀ other, other ≠ number → after.graphs.get? other = before.graphs.get? other) :
      Conducts before call (.ok (), after)

end Call

def Sound (workspace : Workspace) : Prop :=
  ∀ number tree, workspace.graphs.get? number = some tree → tree.Built ∧ tree.key = number

theorem sound_start (limits : Limits) (graph compiler : String) (name : Option String) :
    (start limits graph compiler name).Sound := by
  intro number tree found
  simp only [start, Registry.get?_register] at found
  by_cases first : number = (Registry.empty : Registry Graph).size
  · rw [if_pos first] at found
    cases found
    exact ⟨.empty _ _, first.symm⟩
  · rw [if_neg first] at found
    simp [Registry.empty, Registry.get?] at found

theorem log_kept (record : LogRecord) (workspace : Workspace) :
    (workspace.log record).graphs = workspace.graphs ∧ (workspace.log record).detached = workspace.detached := by
  unfold log
  split <;> exact ⟨rfl, rfl⟩

inductive Revised (before : Workspace) (number : Nat) (request : Graph.Request) :
    Except Error Graph → Except Error Unit × Workspace → Prop
  | refused (error : Error) : Revised before number request (.error error) (.error error, before)
  | done {result : Graph} {after : Workspace} (graphs : after.graphs = before.graphs.update number fun _ => result)
      (detached : ∀ node ∈ after.detached, node ∈ before.detached ∨ request = .remove node) :
      Revised before number request (.ok result) (.ok (), after)

section Revise

variable {workspace : Workspace} {handle : String} {number : Nat} {tree : Graph} {request : Graph.Request}

theorem revise_unknown (unknown : workspace.tree? handle = none) (request : Graph.Request) :
    (revise handle request).outcome workspace = (.error (.unknownHandle handle), workspace) := by
  have missing := outcome_item_none unknown
  have unedited {ε α : Type} (wrap : ε → Error) (editing : Editing ε α) :
      (edit wrap handle editing).outcome workspace = (.error (.unknownHandle handle), workspace) := by
    rw [edit, Step.outcome_bind_error missing]
  cases request with
  | new kind name given => rw [revise, newNode, bind_assoc, Step.outcome_bind_error (unedited ..)]
  | link source output target input => rw [revise, link, bind_assoc, Step.outcome_bind_error (unedited ..)]
  | unlink target input => rw [revise, unlink, bind_assoc, Step.outcome_bind_error missing]
  | remove node => rw [revise, remove, bind_assoc, Step.outcome_bind_error (unedited ..)]

variable (held : workspace.graphs.number? handle = some number) (found : workspace.graphs.get? number = some tree)

include held found

theorem edit_revised {ε α : Type} {editing : Editing ε α} (atomic : editing.Atomic) (wrap : ε → Error)
    {next : Graph × α → Working Unit}
    (finishes : ∀ result before, ∃ after, (next result).outcome before = (.ok (), after) ∧
      after.graphs = before.graphs ∧ ∀ node ∈ after.detached, node ∈ before.detached ∨ request = .remove node)
    {outcome : Except Error Graph} (ok : ∀ result, editing.result tree = .ok result → outcome = .ok result.1)
    (failed : ∀ cause, editing.result tree = .error cause → outcome = .error (wrap cause)) :
    Revised workspace number request outcome ((edit wrap handle editing >>= next).outcome workspace) := by
  have edited := atomic.outcome_eq tree
  cases made : editing.result tree with
  | error cause =>
    rw [made] at edited
    have refused : (edit wrap handle editing).outcome workspace = (.error (wrap cause), workspace) := by
      rw [edit, Step.outcome_bind_ok (outcome_item_some held found)]
      simp only [edited]
      rw [Step.outcome_bind_ok (Step.outcome_modify ..), Step.outcome_bind_error (Step.outcome_ofExcept_error ..),
        Registry.update_same found]
    rw [Step.outcome_bind_error refused, failed cause made]
    exact .refused _
  | ok result =>
    rw [made] at edited
    have done : (edit wrap handle editing).outcome workspace =
        (.ok result, { workspace with graphs := workspace.graphs.update number fun _ => result.1 }) := by
      rw [edit, Step.outcome_bind_ok (outcome_item_some held found)]
      simp only [edited]
      rfl
    obtain ⟨after, finished, graphs, detached⟩ :=
      finishes result { workspace with graphs := workspace.graphs.update number fun _ => result.1 }
    rw [Step.outcome_bind_ok done, finished, ok result made]
    exact .done graphs detached

theorem revise_revised (request : Graph.Request) :
    Revised workspace number request (request.apply tree) ((revise handle request).outcome workspace) := by
  cases request with
  | new kind name given =>
    rw [revise, newNode, bind_assoc]
    refine edit_revised held found (Editing.new_atomic kind name given) _ ?_ ?_ ?_
    · exact fun result before => ⟨before, rfl, rfl, fun node member => .inl member⟩
    · intro result made
      rw [Graph.Request.apply, Graph.new, made]
    · intro cause made
      rw [Graph.Request.apply, Graph.new, made]
  | link source output target input =>
    rw [revise, link, bind_assoc]
    refine edit_revised held found (Editing.link_atomic source output target input) _ ?_ ?_ ?_
    · intro result before
      obtain ⟨graphs, detached⟩ := before.log_kept ⟨LogLevel.debug, "Linked " ++ result.1.describeLink result.2⟩
      exact ⟨_, rfl, graphs, fun node member => .inl (detached ▸ member)⟩
    · intro result made
      rw [Graph.Request.apply, Graph.link, made]
    · intro cause made
      rw [Graph.Request.apply, Graph.link, made]
  | unlink target input =>
    rw [revise, unlink, bind_assoc, Step.outcome_bind_ok (outcome_item_some held found)]
    exact .done rfl fun node member => .inl member
  | remove node =>
    rw [revise, remove, bind_assoc]
    refine edit_revised held found (Editing.remove_atomic node) _ ?_ ?_ ?_
    · refine fun result before => ⟨_, rfl, rfl, ?_⟩
      intro other member
      rcases List.mem_cons.mp member with rfl | member
      · exact .inr rfl
      · exact .inl member
    · intro result made
      rw [Graph.Request.apply, Graph.remove, made]
      rfl
    · intro cause made
      rw [Graph.Request.apply, Graph.remove, made]
      rfl

omit held found

theorem revise_conducts (sound : workspace.Sound) (handle : String) (request : Graph.Request) :
    Call.Conducts workspace (.revise handle request) ((revise handle request).outcome workspace) := by
  cases known : workspace.tree? handle with
  | none =>
    rw [revise_unknown known]
    refine .refused ?_ trivial
    intro admissible
    obtain ⟨tree, other, _⟩ := admissible
    simp [known] at other
  | some tree =>
    obtain ⟨number, held, found⟩ := Option.bind_eq_some_iff.mp known
    obtain ⟨built, key⟩ := sound number tree found
    have accepted := request.apply_iff built.sound
    have revised := revise_revised held found request
    generalize (revise handle request).outcome workspace = ended at revised ⊢
    generalize applied : request.apply tree = outcome at revised
    cases revised with
    | refused error =>
      refine .refused ?_ (Graph.Request.apply_refused applied)
      intro admissible
      obtain ⟨other, same, admissible⟩ := admissible
      rw [known] at same
      cases same
      obtain ⟨result, ok⟩ := accepted.mpr admissible
      rw [applied] at ok
      cases ok
    | @done result after graphs =>
      obtain ⟨edit, revises, kept⟩ := Graph.Request.apply_revises applied
      refine .done ⟨tree, known, accepted.mp ⟨result, applied⟩⟩ (built.edit edit) (kept.trans key)
        ⟨held, tree, found, revises⟩ ?_ ?_
      · simp [graphs, Registry.get?_update, found]
      · intro other different
        simp [graphs, Registry.get?_update, different]

end Revise

theorem conducts_registered {before after : Workspace} {call : Call} {handle : String} {result : Graph}
    (admissible : call.Admissible before) (built : result.Built) (key : result.key = before.graphs.size)
    (effect : call.Effect before before.graphs.size result)
    (graphs : after.graphs = before.graphs.register handle result) : call.Conducts before (.ok (), after) := by
  refine .done admissible built key effect ?_ ?_
  · rw [graphs, Registry.get?_register, if_pos rfl]
  · intro other different
    rw [graphs, Registry.get?_register, if_neg different]

theorem outcome_notes {α : Type} (things : List α) (level : Int) (message : α → String) (workspace : Workspace) :
    ∃ after, Step.outcome (forM things fun thing => note level (message thing)) workspace = (.ok (), after) ∧
      after.graphs = workspace.graphs ∧ after.detached = workspace.detached := by
  induction things generalizing workspace with
  | nil => exact ⟨workspace, rfl, rfl, rfl⟩
  | cons thing things ih =>
    obtain ⟨after, outcome, graphs, detached⟩ := ih (workspace.log ⟨level, message thing⟩)
    have kept := workspace.log_kept ⟨level, message thing⟩
    refine ⟨after, ?_, graphs.trans kept.1, detached.trans kept.2⟩
    rw [List.forM_cons, note, Step.outcome_bind_ok (Step.outcome_modify _ _)]
    exact outcome

theorem outcome_copy_unknown {workspace : Workspace} {source : String} (unknown : workspace.tree? source = none)
    (handle : String) : (copy source handle).outcome workspace = (.error (.unknownHandle source), workspace) := by
  simp [copy, Step.outcome_bind, outcome_graph_none unknown]

theorem outcome_copy_refused {workspace : Workspace} {source : String} {tree : Graph} {error : Error}
    (known : workspace.tree? source = some tree) (handle : String)
    (refused : tree.copy workspace.graphs.size = .error error) :
    (copy source handle).outcome workspace = (.error error, workspace) := by
  simp [copy, Step.outcome_bind, outcome_graph_some known, refused]

theorem outcome_copy {workspace : Workspace} {source : String} {tree copied : Graph}
    (known : workspace.tree? source = some tree) (handle : String)
    (made : tree.copy workspace.graphs.size = .ok copied) :
    ∃ after, (copy source handle).outcome workspace = (.ok copied, after) ∧
      after.graphs = workspace.graphs.register handle copied ∧ after.detached = workspace.detached := by
  have reached := outcome_graph_some known
  obtain ⟨noted, notes, graphs, detached⟩ := outcome_notes copied.links LogLevel.debug
    (fun link => "Linked " ++ copied.describeLink link) workspace
  refine ⟨{ noted with graphs := noted.graphs.register handle copied }, ?_, by rw [← graphs], detached⟩
  simp only [copy, Step.outcome_bind, Step.outcome_get, reached, made, Step.outcome_ofExcept_ok, List.forM_eq_forM, notes]
  rfl

theorem copy_conducts {workspace : Workspace} (sound : workspace.Sound) (source handle : String) :
    Call.Conducts workspace (.copy source handle) ((Call.copy source handle).run.outcome workspace) := by
  cases known : workspace.tree? source with
  | none =>
    rw [Call.run, Step.outcome_bind_error (outcome_copy_unknown known handle)]
    refine .refused ?_ trivial
    intro admissible
    obtain ⟨tree, other⟩ := admissible
    simp [known] at other
  | some tree =>
    obtain ⟨number, held, found⟩ := Option.bind_eq_some_iff.mp known
    have built := (sound number tree found).1
    have made := Graph.copy_eq built.sound workspace.graphs.size
    obtain ⟨after, outcome, graphs, _⟩ := outcome_copy known handle made
    rw [Call.run, Step.outcome_bind_ok outcome, Step.outcome_pure]
    refine conducts_registered ⟨tree, known⟩ (built.edit (.copy made)) rfl ⟨rfl, tree, known, ?_, rfl⟩ graphs
    simp [Graph.moved, Node.moved]

theorem Call.run_conducts {workspace : Workspace} (sound : workspace.Sound) (call : Call) :
    call.Conducts workspace (call.run.outcome workspace) := by
  cases call with
  | create handle name => exact conducts_registered trivial (.empty _ _) rfl ⟨rfl, rfl, rfl⟩ rfl
  | revise handle request => exact revise_conducts sound handle request
  | copy source handle => exact copy_conducts sound source handle

theorem Call.Conducts.sound {before : Workspace} {call : Call} {outcome : Except Error Unit × Workspace}
    (conducts : call.Conducts before outcome) (sound : before.Sound) : outcome.2.Sound := by
  cases conducts with
  | refused => exact sound
  | @done after number result _ built key _ here elsewhere =>
    intro other tree found
    by_cases changed : other = number
    · rw [changed] at found ⊢
      rw [here] at found
      cases found
      exact ⟨built, key⟩
    · rw [elsewhere other changed] at found
      exact sound other tree found

def perform (workspace : Workspace) (calls : List Call) : Workspace :=
  calls.foldl (fun workspace call => (call.run.outcome workspace).2) workspace

theorem perform_sound {workspace : Workspace} (sound : workspace.Sound) (calls : List Call) :
    (workspace.perform calls).Sound := by
  induction calls generalizing workspace with
  | nil => exact sound
  | cons call calls ih => exact ih ((call.run_conducts sound).sound sound)

/-- After any calls, refused ones among them, the graphs are consistent. A further call succeeds just if it is
    admissible, and has its effect on one graph and none on the others; a call that is refused changes nothing. -/
theorem edits_consistent (limits : Limits) (graph compiler : String) (name : Option String) (calls : List Call)
    (call : Call) :
    let before := (start limits graph compiler name).perform calls
    let after := (call.run.outcome before).2
    (∀ number tree, before.graphs.get? number = some tree → tree.Built ∧ tree.key = number ∧ tree.Consistent) ∧
      ((call.run.outcome before).1 = .ok () ↔ call.Admissible before) ∧
      ((call.run.outcome before).1 = .ok () → ∃ number result, call.Effect before number result ∧
        after.graphs.get? number = some result ∧
        ∀ other, other ≠ number → after.graphs.get? other = before.graphs.get? other) ∧
      ∀ error, (call.run.outcome before).1 = .error error → error.RefusesEdit ∧ after = before := by
  intro before after
  have sound : before.Sound := perform_sound (sound_start limits graph compiler name) calls
  have conducts := call.run_conducts sound
  refine ⟨fun number tree found => ?_, ?_⟩
  · obtain ⟨built, key⟩ := sound number tree found
    exact ⟨built, key, built.consistent⟩
  · simp only [after]
    generalize call.run.outcome before = outcome at conducts ⊢
    cases conducts with
    | refused inadmissible cause =>
      refine ⟨by simp [inadmissible], by simp, ?_⟩
      intro error failed
      cases failed
      exact ⟨cause, rfl⟩
    | done admissible _ _ effect here elsewhere =>
      exact ⟨by simp [admissible], fun _ => ⟨_, _, effect, here, elsewhere⟩, by simp⟩

end Workspace

end ShaderGraph
