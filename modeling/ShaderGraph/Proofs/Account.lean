import Mathlib.Data.List.Nodup
import ShaderGraph.Proofs.Operation

namespace ShaderGraph

open Relation Shading

namespace Graph

def Supplies (graph : Graph) (memo : List (OutputKey × Expression)) (node : Node) : List InputSocket → Inputs → Prop :=
  List.Forall₂ fun socket entry => entry.1 = socket.name ∧ graph.Feed memo node socket entry.2

theorem Supplies.mono {graph : Graph} {memo later : List (OutputKey × Expression)} {node : Node}
    {sockets : List InputSocket} {inputs : Inputs} (supplies : graph.Supplies memo node sockets inputs)
    (wider : memo ⊆ later) : graph.Supplies later node sockets inputs :=
  List.Forall₂.imp (fun _ _ fed => ⟨fed.1, fed.2.mono wider⟩) supplies

def Accounts (graph : Graph) (catalog : Catalog) (options : Options) (names : NameTable)
    (memo : List (OutputKey × Expression)) (key : OutputKey) (e : Expression) : Prop :=
  ∃ node ∈ graph.nodes, node.id = key.node ∧ ∃ inputs, graph.Supplies memo node (catalog node.kind).inputs inputs ∧
    NodeScope.Made ⟨node, inputs, key.socket, options⟩ names e

/-- Each result was made from those before it; the latest one comes first. -/
def AccountsAll (graph : Graph) (catalog : Catalog) (options : Options) (names : NameTable) :
    List (OutputKey × Expression) → Prop
  | [] => True
  | (key, e) :: memo =>
    graph.Accounts catalog options names memo key e ∧ graph.AccountsAll catalog options names memo

variable {graph : Graph} {catalog : Catalog} {options : Options} {names later : NameTable}
  {memo : List (OutputKey × Expression)} {key other : OutputKey} {e : Expression} {var : String}

theorem AccountsAll.mono (all : graph.AccountsAll catalog options names memo) (kept : names.Kept later) :
    graph.AccountsAll catalog options later memo := by
  induction memo with
  | nil => trivial
  | cons entry memo ih =>
    obtain ⟨⟨node, inside, same, inputs, supplied, made⟩, rest⟩ := all
    exact ⟨⟨node, inside, same, inputs, supplied, made.mono kept⟩, ih rest⟩

theorem AccountsAll.of_mem (all : graph.AccountsAll catalog options names memo) (member : (key, e) ∈ memo) :
    graph.Accounts catalog options names memo key e := by
  induction memo with
  | nil => cases member
  | cons entry memo ih =>
    have accounts : ∃ before, before ⊆ entry :: memo ∧ graph.Accounts catalog options names before key e := by
      rcases List.mem_cons.mp member with rfl | member
      · exact ⟨memo, List.subset_cons_self .., all.1⟩
      · exact ⟨memo, List.subset_cons_self .., ih all.2 member⟩
    obtain ⟨before, part, node, inside, same, inputs, supplied, made⟩ := accounts
    exact ⟨node, inside, same, inputs, supplied.mono part, made⟩

def Owns (graph : Graph) (memo : List (OutputKey × Expression)) (key : OutputKey) (var : String) : Prop :=
  (∃ node ∈ graph.nodes, node.id = key.node ∧ node.kind = .vector) ∧ ∃ e, (key, e) ∈ memo ∧ e.var = var

theorem AccountsAll.owned (sound : graph.Sound) (all : graph.AccountsAll catalog options names memo)
    (owns : graph.Owns memo key var) :
    ∃ code : Code, code.Proper ∧ code.term.isQuad = true ∧ names.expression? var = some code.render := by
  obtain ⟨⟨owner, inside, same, vector⟩, e, member, rfl⟩ := owns
  obtain ⟨node, nodeInside, nodeSame, inputs, _, made⟩ := all.of_mem member
  have one : node = owner := List.inj_on_of_nodup_map sound.distinct nodeInside inside (nodeSame.trans same.symm)
  cases made with
  | recipe recipe _ =>
    rw [NodeScope.recipe?_vector (one ▸ vector)] at recipe
    cases recipe
  | vector kind first second third fourth proper recorded => exact ⟨_, proper, rfl, recorded⟩

end Graph

/-- What holds of everything that a pass has settled, if the graph is left alone. -/
structure Record.Accounted (record : Record) (graph : Graph) (catalog : Catalog) (options : Options) : Prop where
  typed : record.Typed options
  regular : record.names.Regular
  made : graph.AccountsAll catalog options record.names record.memo
  once : (record.memo.map Prod.fst).Nodup
  owner : ∀ {key other var}, graph.Owns record.memo key var → graph.Owns record.memo other var → key = other

theorem Record.accounted_empty (graph : Graph) (catalog : Catalog) (options : Options) :
    Record.Accounted ⟨[], .empty⟩ graph catalog options :=
  ⟨Record.typed_empty options, NameTable.regular_empty, trivial, .nil, fun ⟨_, _, member, _⟩ => by cases member⟩

theorem Record.Accounted.written {record : Record} {graph : Graph} {catalog : Catalog} {options : Options}
    (accounted : record.Accounted graph catalog options) {name code : String}
    (recorded : record.names.expression? name = some code) : Word name ∧ name ∉ NameTable.meshNames := by
  obtain ⟨_, typed, _⟩ := accounted.typed
  have member : (⟨name, code⟩ : Binding) ∈ record.names.body := NameTable.mem_body_of_expression? recorded
  obtain ⟨_, word, _⟩ := typed.runs.written _ member
  exact ⟨word, typed.not_mesh member⟩

namespace Scene

variable {σ : Type} {scene : Scene σ} {options : Options} {record later : Record}

theorem settles_accounted (sound : scene.graph.Sound) (valid : options.Valid)
    (settles : scene.Settles (· ∈ scene.graph.nodes) options record later) (once : (later.memo.map Prod.fst).Nodup)
    (accounted : record.Accounted scene.graph scene.catalog options) :
    later.Accounted scene.graph scene.catalog options := by
  have typed := settles_typed valid (settles.imp sound.accepted) accounted.typed
  obtain ⟨types, names, entries⟩ := accounted.typed
  cases settles with
  | @output node asked socket inputs result inside declared fed derived =>
    have proper : ∀ entry ∈ inputs, entry.2.operand.Proper :=
      fun entry member => names.operand_proper (fed.typed entries entry member)
    obtain ⟨kept, regular, made, fresh⟩ :=
      derived.made accounted.regular valid (sound.accepted node inside) (Node.output_mem declared) proper
    refine ⟨typed, regular, ⟨⟨node, inside, rfl, inputs, fed, made⟩, accounted.made.mono kept⟩, once, ?_⟩
    have clash {key : OutputKey} {var : String} (owns : scene.graph.Owns record.memo key var)
        (vector : ∃ own ∈ scene.graph.nodes, own.id = node.id ∧ own.kind = .vector) : result.1.var ≠ var := by
      rintro rfl
      obtain ⟨own, ownInside, same, kind⟩ := vector
      have one : own = node := List.inj_on_of_nodup_map sound.distinct ownInside inside same
      obtain ⟨code, _, _, recorded⟩ := accounted.made.owned sound owns
      rw [fresh (one ▸ kind)] at recorded
      cases recorded
    rintro key other var ⟨vector, e, member, rfl⟩ ⟨otherVector, otherE, otherMember, same⟩
    rcases List.mem_cons.mp member with first | member
    · rcases List.mem_cons.mp otherMember with second | otherMember
      · cases first
        cases second
        rfl
      · cases first
        exact absurd same.symm (clash ⟨otherVector, otherE, otherMember, rfl⟩ vector)
    · rcases List.mem_cons.mp otherMember with second | otherMember
      · cases second
        exact absurd same (clash ⟨vector, e, member, rfl⟩ otherVector)
      · exact accounted.owner ⟨vector, e, member, rfl⟩ ⟨otherVector, otherE, otherMember, same⟩

theorem progress_accounted (sound : scene.graph.Sound) (valid : options.Valid)
    (progress : scene.Progress (· ∈ scene.graph.nodes) options ⟨[], .empty⟩ record)
    (once : (record.memo.map Prod.fst).Nodup) : record.Accounted scene.graph scene.catalog options := by
  induction progress with
  | refl => exact Record.accounted_empty _ _ _
  | tail _ settles ih =>
    refine settles_accounted sound valid settles once (ih ?_)
    cases settles
    exact once.of_cons

end Scene

end ShaderGraph
