import ShaderGraph.Error
import ShaderGraph.Graph.Basic

namespace ShaderGraph

abbrev Editing (ε α : Type) := ExceptT ε (StateM Graph) α

namespace Editing

variable {ε α β : Type}

def outcome (edit : Editing ε α) (graph : Graph) : Except ε α × Graph :=
  edit.run.run graph

def look (check : Graph → Except ε α) : Editing ε α :=
  ExceptT.mk (fun graph => (check graph, graph))

def write (change : Graph → Graph) : Editing ε Unit :=
  ExceptT.mk (fun graph => (.ok (), change graph))

def result (edit : Editing ε α) (graph : Graph) : Except ε (Graph × α) :=
  match edit.outcome graph with
  | (.ok a, after) => .ok (after, a)
  | (.error cause, _) => .error cause

/-- An edit that fails leaves the graph as it was. -/
def Atomic (edit : Editing ε α) : Prop :=
  ∀ graph cause, (edit.outcome graph).1 = .error cause → (edit.outcome graph).2 = graph

theorem outcome_look (check : Graph → Except ε α) (next : α → Editing ε β) (graph : Graph) :
    outcome (look check >>= next) graph = match check graph with
      | .ok a => (next a).outcome graph
      | .error cause => (.error cause, graph) := by
  change ExceptT.bindCont next (check graph) graph = _
  cases check graph <;> rfl

theorem result_pure (a : α) (graph : Graph) : result (pure a : Editing ε α) graph = .ok (graph, a) := rfl

theorem result_look (check : Graph → Except ε α) (next : α → Editing ε β) (graph : Graph) :
    result (look check >>= next) graph = check graph >>= fun a => (next a).result graph := by
  unfold result
  rw [outcome_look]
  cases check graph <;> rfl

theorem result_write (change : Graph → Graph) (next : Unit → Editing ε β) (graph : Graph) :
    result (write change >>= next) graph = (next ()).result (change graph) := rfl

theorem atomic_look {check : Graph → Except ε α} {next : α → Editing ε β} (rest : ∀ a, (next a).Atomic) :
    (look check >>= next).Atomic := by
  intro graph cause
  rw [outcome_look]
  cases check graph with
  | error _ => exact fun _ => rfl
  | ok a => exact rest a graph cause

theorem atomic_of_ok {edit : Editing ε α} (ok : ∀ graph, ∃ a, (edit.outcome graph).1 = .ok a) : edit.Atomic := by
  intro graph cause failed
  obtain ⟨a, done⟩ := ok graph
  rw [done] at failed
  cases failed

theorem Atomic.outcome_eq {edit : Editing ε α} (atomic : edit.Atomic) (graph : Graph) :
    edit.outcome graph = match edit.result graph with
      | .ok (after, a) => (.ok a, after)
      | .error cause => (.error cause, graph) := by
  have kept := atomic graph
  unfold result
  generalize edit.outcome graph = ended at kept ⊢
  obtain ⟨cause | a, after⟩ := ended
  · exact Prod.ext rfl (kept cause rfl)
  · rfl

end Editing

namespace Graph

def member (graph : Graph) (node : Node) : Except Failure Node :=
  match graph.find? node.id with
  | some own => .ok own
  | none => .error (.notMember node.kind node.name graph.name)

end Graph

namespace Editing

/-- Add a node of a kind. Without a name it is named for its kind. A reserved key is refused before anything else. -/
def new (kind : NodeKind) (name : Option String) (given : Params) : Editing ParamError Node := do
  look (fun _ => given.checkKeys)
  let base := match name with
    | some name => if name = "" then kind.title else name
    | none => kind.title
  let node ← look (fun graph => Node.create ⟨graph.key, graph.issued⟩ kind (graph.uniqueName base) given)
  write (fun graph => { graph with nodes := graph.nodes ++ [node], issued := graph.issued + 1 })
  return node

def link (source : Node) (output : String) (target : Node) (input : String) : Editing Failure Link := do
  let source ← look (·.member source)
  let target ← look (·.member target)
  look (fun _ => ensure (source.kind.template.hasOutput output) (.noOutput source.name output))
  look (fun _ => ensure (target.kind.template.hasInput input) (.noInput target.name input))
  look (fun graph => ensure (graph.inputLink? target.id input).isNone (.inputTaken target.name input))
  let link : Link := ⟨source.id, output, target.id, input⟩
  write (fun graph => { graph with links := graph.links ++ [link] })
  return link

def remove (node : Node) : Editing Failure Unit := do
  let node ← look (·.member node)
  write (fun graph => { graph with nodes := graph.nodes.filter (fun other => other.id != node.id) })
  write (fun graph => { graph with
    links := graph.links.filter (fun link => link.source != node.id && link.target != node.id) })

theorem new_atomic (kind : NodeKind) (name : Option String) (given : Params) : (new kind name given).Atomic :=
  atomic_look fun _ => atomic_look fun _ => atomic_of_ok fun _ => ⟨_, rfl⟩

theorem link_atomic (source : Node) (output : String) (target : Node) (input : String) :
    (link source output target input).Atomic :=
  atomic_look fun _ => atomic_look fun _ => atomic_look fun _ => atomic_look fun _ => atomic_look fun _ =>
    atomic_of_ok fun _ => ⟨_, rfl⟩

theorem remove_atomic (node : Node) : (remove node).Atomic :=
  atomic_look fun _ => atomic_of_ok fun _ => ⟨_, rfl⟩

end Editing

namespace Graph

def new (graph : Graph) (kind : NodeKind) (name : Option String) (given : Params) : Except ParamError (Graph × Node) :=
  (Editing.new kind name given).result graph

def link (graph : Graph) (source : Node) (output : String) (target : Node) (input : String) :
    Except Failure (Graph × Link) :=
  (Editing.link source output target input).result graph

def unlink (graph : Graph) (target : NodeId) (input : String) : Graph × Option Link :=
  ({ graph with links := graph.links.filter (fun link => !(link.target == target && link.input == input)) },
    graph.inputLink? target input)

def remove (graph : Graph) (node : Node) : Except Failure Graph :=
  ((Editing.remove node).result graph).map Prod.fst

theorem new_eq (graph : Graph) (kind : NodeKind) (name : Option String) (given : Params) :
    graph.new kind name given = (do
      given.checkKeys
      let base := match name with
        | some name => if name = "" then kind.title else name
        | none => kind.title
      let node ← Node.create ⟨graph.key, graph.issued⟩ kind (graph.uniqueName base) given
      return ({ graph with nodes := graph.nodes ++ [node], issued := graph.issued + 1 }, node)) := by
  simp only [new, Editing.new, Editing.result_look, Editing.result_write, Editing.result_pure]
  rfl

theorem link_eq (graph : Graph) (source : Node) (output : String) (target : Node) (input : String) :
    graph.link source output target input = (do
      let source ← graph.member source
      let target ← graph.member target
      ensure (source.kind.template.hasOutput output) (.noOutput source.name output)
      ensure (target.kind.template.hasInput input) (.noInput target.name input)
      ensure (graph.inputLink? target.id input).isNone (.inputTaken target.name input)
      let link : Link := ⟨source.id, output, target.id, input⟩
      return ({ graph with links := graph.links ++ [link] }, link)) := by
  simp only [link, Editing.link, Editing.result_look, Editing.result_write, Editing.result_pure]
  rfl

theorem remove_eq (graph : Graph) (node : Node) :
    graph.remove node = (do
      let node ← graph.member node
      return { graph with
        nodes := graph.nodes.filter (fun other => other.id != node.id)
        links := graph.links.filter (fun link => link.source != node.id && link.target != node.id) }) := by
  simp only [remove, Editing.remove, Editing.result_look]
  cases graph.member node <;> rfl

def modify (graph : Graph) (id : NodeId) (change : Node → Node) : Graph :=
  { graph with nodes := graph.nodes.map (fun node => if node.id = id then change node else node) }

def own (graph : Graph) (id : NodeId) : Except Failure Node :=
  match graph.find? id with
  | some node => .ok node
  | none => .error (.noSuchNode (graph.nameOf id) graph.name)

def rejoin (graph : Graph) (link : Link) : Except Failure Graph := do
  let source ← graph.own link.source
  let target ← graph.own link.target
  let (graph, _) ← graph.link source link.output target link.input
  return graph

/-- A graph of its own with the same nodes and links. Parameters are checked again, and those that the kind does not
    declare are dropped; then the nodes are joined again, link by link. -/
def copy (graph : Graph) (key : Nat) : Except Error Graph := do
  let nodes ← (graph.nodes.mapM (fun node =>
    Node.create (node.id.moved key) node.kind node.name node.params)).mapError Error.params
  let bare := { graph with key := key, nodes := nodes, links := [] }
  ((graph.links.map (·.moved key)).foldlM rejoin bare).mapError Error.failure

theorem new_eq_ok {graph result : Graph} {kind : NodeKind} {name : Option String} {given : Params} {node : Node}
    (h : graph.new kind name given = .ok (result, node)) :
    result = { graph with nodes := graph.nodes ++ [node], issued := graph.issued + 1 } := by
  simp only [new_eq, bind_eq_ok_iff, pure, Except.pure, Except.ok.injEq, Prod.mk.injEq] at h
  obtain ⟨_, _, made, _, rfl, rfl⟩ := h
  rfl

theorem member_eq_ok_iff {graph : Graph} {node own : Node} :
    graph.member node = .ok own ↔ graph.find? node.id = some own := by
  simp only [member]
  split <;> simp_all

theorem id_of_member {graph : Graph} {node own : Node} (h : graph.member node = .ok own) : own.id = node.id := by
  simpa using List.find?_some (member_eq_ok_iff.mp h)

theorem link_eq_ok {graph result : Graph} {source target : Node} {output input : String} {link : Link}
    (h : graph.link source output target input = .ok (result, link)) :
    result = { graph with links := graph.links ++ [link] } ∧ link = ⟨source.id, output, target.id, input⟩ ∧
      graph.inputLink? target.id input = none := by
  simp only [link_eq, bind_eq_ok_iff, ensure_eq_ok_iff, Option.isNone_iff_eq_none, pure, Except.pure, Except.ok.injEq,
    Prod.mk.injEq] at h
  obtain ⟨origin, isSource, own, isTarget, _, _, _, _, _, free, rfl, rfl⟩ := h
  rw [id_of_member isSource, id_of_member isTarget] at *
  exact ⟨rfl, rfl, free⟩

theorem remove_eq_ok {graph result : Graph} {node : Node} (h : graph.remove node = .ok result) :
    result = { graph with
      nodes := graph.nodes.filter (fun other => other.id != node.id)
      links := graph.links.filter (fun link => link.source != node.id && link.target != node.id) } := by
  simp only [remove_eq, bind_eq_ok_iff, pure, Except.pure, Except.ok.injEq] at h
  obtain ⟨own, isNode, rfl⟩ := h
  rw [id_of_member isNode]

theorem own_eq_ok_iff {graph : Graph} {id : NodeId} {node : Node} :
    graph.own id = .ok node ↔ graph.find? id = some node := by
  simp only [own]
  split <;> simp_all

theorem rejoin_eq_ok {graph result : Graph} {link : Link} (h : graph.rejoin link = .ok result) :
    result = { graph with links := graph.links ++ [link] } := by
  simp only [rejoin, link_eq, bind_eq_ok_iff, own_eq_ok_iff, member_eq_ok_iff, pure, Except.pure, Except.ok.injEq] at h
  obtain ⟨source, foundSource, target, foundTarget, _, ⟨origin, foundOrigin, own, foundOwn, _, _, _, _, _, _, rfl⟩, rfl⟩ := h
  have ends : origin.id = link.source ∧ own.id = link.target := by
    have first := List.find?_some foundSource
    have second := List.find?_some foundTarget
    have third := List.find?_some foundOrigin
    have fourth := List.find?_some foundOwn
    simp only [beq_iff_eq] at first second third fourth
    exact ⟨third.trans first, fourth.trans second⟩
  rw [ends.1, ends.2]

theorem rejoinAll_eq_ok {graph result : Graph} {links : List Link} (h : links.foldlM rejoin graph = .ok result) :
    result = { graph with links := graph.links ++ links } := by
  induction links generalizing graph with
  | nil =>
    cases h
    simp
  | cons link links ih =>
    rw [List.foldlM_cons, bind_eq_ok_iff] at h
    obtain ⟨next, joined, rest⟩ := h
    rw [ih rest, rejoin_eq_ok joined]
    simp

theorem copy_eq_ok {graph result : Graph} {key : Nat} (h : graph.copy key = .ok result) :
    ∃ nodes, graph.nodes.mapM (fun node => Node.create (node.id.moved key) node.kind node.name node.params) = .ok nodes ∧
      result = { graph with key := key, nodes := nodes, links := graph.links.map (·.moved key) } := by
  simp only [copy, bind_eq_ok_iff, mapError_eq_ok_iff] at h
  obtain ⟨nodes, made, joined⟩ := h
  exact ⟨nodes, made, rejoinAll_eq_ok joined⟩

end Graph

end ShaderGraph
