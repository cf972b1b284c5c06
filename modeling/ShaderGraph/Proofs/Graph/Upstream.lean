import Mathlib.Data.List.Nodup
import Mathlib.Logic.Relation
import ShaderGraph.Proofs.Graph.Built

namespace ShaderGraph

open Relation

theorem NodeKind.not_print_of_hasOutput {kind : NodeKind} {output : String}
    (declared : kind.template.hasOutput output = true) : kind ≠ .print := by
  intro print
  subst print
  simp [Template.hasOutput, template, outputs] at declared

namespace Graph

def Feeds (graph : Graph) (source target : NodeId) : Prop :=
  ∃ link ∈ graph.links, link.source = source ∧ link.target = target

def Upstream (graph : Graph) : NodeId → NodeId → Prop := ReflTransGen graph.Feeds

def CyclicAbove (graph : Graph) (root : NodeId) : Prop :=
  ∃ id, graph.Upstream id root ∧ TransGen graph.Feeds id id

/-- Upstream of a node, an input that needs a link has none. -/
def GapAbove (graph : Graph) (catalog : Catalog) (root : NodeId) : Prop :=
  ∃ node ∈ graph.nodes, graph.Upstream node.id root ∧
    ∃ socket ∈ (catalog node.kind).inputs, socket.required = true ∧ graph.inputLink? node.id socket.name = none

theorem CyclicAbove.down {graph : Graph} {source root : NodeId} (cyclic : graph.CyclicAbove source)
    (upstream : graph.Upstream source root) : graph.CyclicAbove root := by
  obtain ⟨id, above, around⟩ := cyclic
  exact ⟨id, above.trans upstream, around⟩

theorem GapAbove.down {graph : Graph} {catalog : Catalog} {source root : NodeId}
    (gap : graph.GapAbove catalog source) (upstream : graph.Upstream source root) : graph.GapAbove catalog root := by
  obtain ⟨node, member, above, missing⟩ := gap
  exact ⟨node, member, above.trans upstream, missing⟩

theorem not_cyclicAbove_of_acc {graph : Graph} {root : NodeId} (ends : Acc graph.Feeds root) :
    ¬graph.CyclicAbove root := by
  rintro ⟨id, above, around⟩
  have transitive : Acc (TransGen graph.Feeds) id := by
    rcases reflTransGen_iff_eq_or_transGen.mp above with rfl | above
    · exact ends.transGen
    · exact ends.transGen.inv above
  induction transitive with
  | intro id _ ih => exact ih id around above around

theorem find?_of_mem {graph : Graph} (sound : graph.Sound) {node : Node} (member : node ∈ graph.nodes) :
    graph.find? node.id = some node := by
  cases found : graph.find? node.id with
  | none => simpa using List.find?_eq_none.mp found node member
  | some other =>
    have same : other.id = node.id := by simpa using List.find?_some found
    rw [List.inj_on_of_nodup_map sound.distinct (List.mem_of_find?_eq_some found) member same]

theorem mem_of_find? {graph : Graph} {id : NodeId} {node : Node} (found : graph.find? id = some node) :
    node ∈ graph.nodes ∧ node.id = id :=
  ⟨List.mem_of_find?_eq_some found, by simpa using List.find?_some found⟩

theorem mem_of_inputLink? {graph : Graph} {target : NodeId} {input : String} {link : Link}
    (found : graph.inputLink? target input = some link) :
    link ∈ graph.links ∧ link.target = target ∧ link.input = input :=
  ⟨List.mem_of_find?_eq_some found, by simpa using List.find?_some found⟩

theorem inputLink?_of_mem {graph : Graph} (sound : graph.Sound) {link : Link} (member : link ∈ graph.links) :
    graph.inputLink? link.target link.input = some link := by
  cases found : graph.inputLink? link.target link.input with
  | none =>
    have absent := List.find?_eq_none.mp found link member
    simp at absent
  | some other =>
    obtain ⟨otherMember, target, input⟩ := mem_of_inputLink? found
    rw [List.inj_on_of_nodup_map sound.single otherMember member (Prod.ext target input)]

theorem Sound.source {graph : Graph} (sound : graph.Sound) {target : NodeId} {input : String} {link : Link}
    (found : graph.inputLink? target input = some link) :
    ∃ source ∈ graph.nodes, graph.find? link.source = some source ∧ source.id = link.source ∧
      source.kind.template.hasOutput link.output = true := by
  obtain ⟨member, _, _⟩ := mem_of_inputLink? found
  obtain ⟨source, inside, _, _, same, _, declared, _⟩ := sound.joins link member
  exact ⟨source, inside, same ▸ find?_of_mem sound inside, same, declared⟩

theorem Sound.socket {graph : Graph} (sound : graph.Sound) {node : Node} (member : node ∈ graph.nodes) {link : Link}
    (linked : link ∈ graph.links) (into : link.target = node.id) :
    ∃ socket ∈ node.kind.inputs, socket.name = link.input := by
  obtain ⟨_, _, target, inside, _, same, _, declared⟩ := sound.joins link linked
  have one : target = node := List.inj_on_of_nodup_map sound.distinct inside member (same.trans into)
  rw [one] at declared
  obtain ⟨socket, found⟩ := Option.isSome_iff_exists.mp declared
  exact ⟨socket, List.mem_of_find?_eq_some found, by simpa using List.find?_some found⟩

theorem feeds_of_inputLink? {graph : Graph} {target : NodeId} {input : String} {link : Link}
    (found : graph.inputLink? target input = some link) : graph.Feeds link.source target := by
  obtain ⟨member, same, _⟩ := mem_of_inputLink? found
  exact ⟨link, member, rfl, same⟩

end Graph

namespace Catalog

/-- The sockets of the shipped templates; which inputs need a link is left open. -/
def Conforms (catalog : Catalog) : Prop :=
  ∀ kind, (catalog kind).inputs.map (fun socket => (socket.name, socket.shape)) =
    kind.inputs.map (fun socket => (socket.name, socket.shape))

theorem shipped_conforms : shipped.Conforms := fun _ => rfl

theorem Conforms.require {catalog : Catalog} (conforms : catalog.Conforms) (kind : NodeKind) (socket : String) :
    (catalog.require kind socket).Conforms := by
  intro other
  rw [← conforms other]
  by_cases same : other = kind
  · simp only [Catalog.require, same, if_true, Template.require, List.map_map]
    apply List.map_congr_left
    intro input _
    simp only [Function.comp]
    split <;> rfl
  · simp [Catalog.require, same]

theorem Conforms.socket {catalog : Catalog} (conforms : catalog.Conforms) {kind : NodeKind} {socket : InputSocket}
    (declared : socket ∈ kind.inputs) :
    ∃ own ∈ (catalog kind).inputs, own.name = socket.name ∧ own.shape = socket.shape := by
  have image : (socket.name, socket.shape) ∈ (catalog kind).inputs.map (fun socket => (socket.name, socket.shape)) :=
    conforms kind ▸ List.mem_map_of_mem declared
  obtain ⟨own, member, same⟩ := List.mem_map.mp image
  exact ⟨own, member, Prod.mk.inj same⟩

theorem Conforms.shape {catalog : Catalog} (conforms : catalog.Conforms) {kind : NodeKind} {own socket : InputSocket}
    (owned : own ∈ (catalog kind).inputs) (declared : socket ∈ kind.inputs) (same : own.name = socket.name) :
    own.shape = socket.shape := by
  have image : (own.name, own.shape) ∈ kind.inputs.map (fun socket => (socket.name, socket.shape)) :=
    conforms kind ▸ List.mem_map_of_mem owned
  obtain ⟨other, member, both⟩ := List.mem_map.mp image
  obtain ⟨name, shape⟩ := Prod.mk.inj both
  have unique : ∀ a ∈ kind.inputs, ∀ b ∈ kind.inputs, a.name = b.name → a.shape = b.shape := by
    cases kind <;> decide
  exact shape.symm.trans (unique other member socket declared (name.trans same))

theorem shipped_optional {kind : NodeKind} {socket : InputSocket} (declared : socket ∈ (shipped kind).inputs) :
    socket.required = false := by
  revert socket
  cases kind <;> decide

end Catalog

end ShaderGraph
