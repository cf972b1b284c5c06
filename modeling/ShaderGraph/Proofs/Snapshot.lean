import ShaderGraph.Proofs.Editing

namespace ShaderGraph

structure Graph.Mirrors (graph copied : Graph) (partner : NodeId → NodeId) : Prop where
  name : copied.name = graph.name
  nodes : copied.nodes = graph.nodes.map (fun node => { node with id := partner node.id })
  links : copied.links =
    graph.links.map (fun link => { link with source := partner link.source, target := partner link.target })
  oneToOne : ∀ node ∈ graph.nodes, ∀ other ∈ graph.nodes, partner node.id = partner other.id → node = other
  ends : ∀ link ∈ graph.links, ∃ source ∈ graph.nodes, ∃ target ∈ graph.nodes,
    source.id = link.source ∧ target.id = link.target

theorem Graph.Sound.mirrors {graph : Graph} (sound : graph.Sound) (key : Nat) :
    graph.Mirrors (graph.moved key) (·.moved key) := by
  refine ⟨rfl, rfl, rfl, ?_, ?_⟩
  · intro node member other otherMember same
    have ids := moved_injective ((sound.issued node member).1.trans (sound.issued other otherMember).1.symm) same
    exact List.inj_on_of_nodup_map sound.distinct member otherMember ids
  · intro link member
    obtain ⟨source, hs, target, ht, sourceId, targetId, _⟩ := sound.joins link member
    exact ⟨source, hs, target, ht, sourceId, targetId⟩

namespace Workspace

inductive Change where
  | call (call : Call)
  | setParam (node : Node) (key : String) (value : Value)
  | rename (node : Node) (name : String)

namespace Change

def run : Change → Working Unit
  | call request => request.run
  | setParam node key value => Workspace.setParam node key value
  | rename node name => Workspace.rename node name

/-- The change is an edit of the graph with this number. Making a graph and copying one edit none that is there. -/
def Edits (workspace : Workspace) (number : Nat) : Change → Prop
  | call (.revise handle _) => workspace.graphs.number? handle = some number
  | call (.create _ _) | call (.copy _ _) => False
  | setParam node _ _ | rename node _ => node.id.graph = number

inductive Alters (before : Workspace) (change : Change) : Registry Graph → Prop
  | kept : Alters before change before.graphs
  | added {handle : String} {tree : Graph} (key : tree.key = before.graphs.size) :
      Alters before change (before.graphs.register handle tree)
  | edited {number : Nat} {edit : Graph → Graph} (aimed : change.Edits before number)
      (key : ∀ tree, before.graphs.get? number = some tree → (edit tree).key = number) :
      Alters before change (before.graphs.update number edit)

end Change

def Keyed (workspace : Workspace) : Prop :=
  ∀ number tree, workspace.graphs.get? number = some tree → tree.key = number

theorem Sound.keyed {workspace : Workspace} (sound : workspace.Sound) : workspace.Keyed :=
  fun number tree found => (sound number tree found).2

section Step

variable {workspace : Workspace}

theorem revise_alters (keyed : workspace.Keyed) (handle : String) (request : Graph.Request) :
    Change.Alters workspace (.call (.revise handle request)) ((revise handle request).outcome workspace).2.graphs := by
  cases known : workspace.tree? handle with
  | none =>
    rw [revise_unknown known]
    exact .kept
  | some tree =>
    obtain ⟨number, held, found⟩ := Option.bind_eq_some_iff.mp known
    have revised := revise_revised held found request
    generalize (revise handle request).outcome workspace = ended at revised ⊢
    generalize applied : request.apply tree = outcome at revised
    cases revised with
    | refused => exact .kept
    | @done result _ graphs =>
      have key : result.key = number := (Graph.Request.apply_revises applied).2.2.trans (keyed number tree found)
      simp only [graphs]
      exact .edited held fun _ _ => key

theorem copy_alters (source handle : String) :
    Change.Alters workspace (.call (.copy source handle)) ((Call.copy source handle).run.outcome workspace).2.graphs := by
  rw [Call.run]
  cases known : workspace.tree? source with
  | none =>
    rw [Step.outcome_bind_error (outcome_copy_unknown known handle)]
    exact .kept
  | some tree =>
    cases made : tree.copy workspace.graphs.size with
    | error error =>
      rw [Step.outcome_bind_error (outcome_copy_refused known handle made)]
      exact .kept
    | ok copied =>
      obtain ⟨after, outcome, graphs, _⟩ := outcome_copy known handle made
      obtain ⟨_, _, rfl⟩ := Graph.copy_eq_ok made
      rw [Step.outcome_bind_ok outcome, Step.outcome_pure, graphs]
      exact .added rfl

theorem modifyNode_alters (keyed : workspace.Keyed) {change : Change} {id : NodeId} (edit : Node → Node)
    (aimed : change.Edits workspace id.graph) :
    change.Alters workspace ((modifyNode id edit).outcome workspace).2.graphs := by
  rw [modifyNode, Step.outcome_modify]
  exact .edited aimed fun tree found => keyed id.graph tree found

theorem Change.run_alters (keyed : workspace.Keyed) (change : Change) :
    change.Alters workspace (change.run.outcome workspace).2.graphs := by
  cases change with
  | call request =>
    cases request with
    | create handle name => exact .added rfl
    | revise handle request => exact revise_alters keyed handle request
    | copy source handle => exact copy_alters source handle
  | setParam node key value => exact modifyNode_alters keyed _ rfl
  | rename node name => exact modifyNode_alters keyed _ rfl

theorem Change.run_keyed (keyed : workspace.Keyed) (change : Change) : (change.run.outcome workspace).2.Keyed := by
  have alters := change.run_alters keyed
  intro number tree found
  generalize (change.run.outcome workspace).2.graphs = graphs at alters found
  cases alters with
  | kept => exact keyed number tree found
  | added key =>
    rw [Registry.get?_register] at found
    split at found
    · rename_i last
      cases found
      exact key.trans last.symm
    · exact keyed number tree found
  | edited aimed key =>
    rw [Registry.get?_update] at found
    split at found
    · rename_i same
      obtain ⟨old, present, rfl⟩ := Option.map_eq_some_iff.mp found
      exact (key old present).trans same.symm
    · exact keyed number tree found

theorem Change.run_spares (keyed : workspace.Keyed) {change : Change} {number : Nat} {tree : Graph}
    (spared : ¬change.Edits workspace number) (found : workspace.graphs.get? number = some tree) :
    (change.run.outcome workspace).2.graphs.get? number = some tree := by
  have alters := change.run_alters keyed
  generalize (change.run.outcome workspace).2.graphs = graphs at alters ⊢
  cases alters with
  | kept => exact found
  | added =>
    have old : number ≠ workspace.graphs.size := Nat.ne_of_lt (Registry.lt_size_of_get? found)
    rw [Registry.get?_register, if_neg old, found]
  | edited aimed =>
    have other : number ≠ _ := fun same => spared (same ▸ aimed)
    rw [Registry.get?_update, if_neg other, found]

end Step

def alter (workspace : Workspace) (changes : List Change) : Workspace :=
  changes.foldl (fun workspace change => (change.run.outcome workspace).2) workspace

def Spares (number : Nat) : Workspace → List Change → Prop
  | _, [] => True
  | workspace, change :: changes =>
    ¬change.Edits workspace number ∧ Spares number (change.run.outcome workspace).2 changes

theorem alter_keyed {workspace : Workspace} (keyed : workspace.Keyed) (changes : List Change) :
    (workspace.alter changes).Keyed := by
  induction changes generalizing workspace with
  | nil => exact keyed
  | cons change changes ih => exact ih (change.run_keyed keyed)

theorem alter_spares {workspace : Workspace} (keyed : workspace.Keyed) {number : Nat} {tree : Graph}
    (found : workspace.graphs.get? number = some tree) {changes : List Change} (spared : workspace.Spares number changes) :
    (workspace.alter changes).graphs.get? number = some tree := by
  induction changes generalizing workspace with
  | nil => exact found
  | cons change changes ih => exact ih (change.run_keyed keyed) (Change.run_spares keyed spared.1 found) spared.2

theorem alter_append (workspace : Workspace) (earlier later : List Change) :
    workspace.alter (earlier ++ later) = (workspace.alter earlier).alter later := by
  simp [alter]

/-- Whatever changes are made from here on, those of them in a row that are no edits of the graph of a number leave it as
    it is. -/
def Isolated (workspace : Workspace) (number : Nat) : Prop :=
  ∀ earlier later tree, (workspace.alter earlier).graphs.get? number = some tree →
    (workspace.alter earlier).Spares number later → (workspace.alter (earlier ++ later)).graphs.get? number = some tree

theorem Keyed.isolated {workspace : Workspace} (keyed : workspace.Keyed) (number : Nat) : workspace.Isolated number := by
  intro earlier later tree found spared
  rw [alter_append]
  exact alter_spares (alter_keyed keyed earlier) found spared

def Traced (workspace : Workspace) : Prop :=
  ∀ node ∈ workspace.detached, node.id.graph < workspace.graphs.size

theorem revise_traced {workspace : Workspace} (sound : workspace.Sound) (traced : workspace.Traced) (handle : String)
    (request : Graph.Request) : ((revise handle request).outcome workspace).2.Traced := by
  cases known : workspace.tree? handle with
  | none =>
    rw [revise_unknown known]
    exact traced
  | some tree =>
    obtain ⟨number, held, found⟩ := Option.bind_eq_some_iff.mp known
    obtain ⟨built, key⟩ := sound number tree found
    have revised := revise_revised held found request
    generalize (revise handle request).outcome workspace = ended at revised ⊢
    generalize applied : request.apply tree = outcome at revised
    cases revised with
    | refused => exact traced
    | @done result _ graphs detached =>
      intro node member
      rw [graphs, Registry.size_update]
      rcases detached node member with old | rfl
      · exact traced node old
      · obtain ⟨own, inside, same⟩ := (Graph.Request.apply_iff built.sound _).mp ⟨result, applied⟩
        rw [← same, (built.sound.issued own inside).1, key]
        exact Registry.lt_size_of_get? found

theorem copy_traced {workspace : Workspace} (sound : workspace.Sound) (traced : workspace.Traced) (source handle : String) :
    ((Call.copy source handle).run.outcome workspace).2.Traced := by
  rw [Call.run]
  cases known : workspace.tree? source with
  | none =>
    rw [Step.outcome_bind_error (outcome_copy_unknown known handle)]
    exact traced
  | some tree =>
    obtain ⟨number, held, found⟩ := Option.bind_eq_some_iff.mp known
    have made := Graph.copy_eq (sound number tree found).1.sound workspace.graphs.size
    obtain ⟨after, outcome, graphs, detached⟩ := outcome_copy known handle made
    rw [Step.outcome_bind_ok outcome, Step.outcome_pure]
    intro node member
    rw [detached] at member
    rw [graphs, Registry.size_register]
    exact Nat.lt_succ_of_lt (traced node member)

theorem Call.run_traced {workspace : Workspace} (sound : workspace.Sound) (traced : workspace.Traced) (call : Call) :
    (call.run.outcome workspace).2.Traced := by
  cases call with
  | create handle name =>
    intro node member
    have size : ((Call.create handle name).run.outcome workspace).2.graphs.size = workspace.graphs.size + 1 :=
      Registry.size_register _ _ _
    rw [size]
    exact Nat.lt_succ_of_lt (traced node member)
  | revise handle request => exact revise_traced sound traced handle request
  | copy source handle => exact copy_traced sound traced source handle

theorem perform_traced {workspace : Workspace} (sound : workspace.Sound) (traced : workspace.Traced) (calls : List Call) :
    (workspace.perform calls).Traced := by
  induction calls generalizing workspace with
  | nil => exact traced
  | cons call calls ih => exact ih ((call.run_conducts sound).sound sound) (call.run_traced sound traced)

theorem Traced.node?_eq_none {workspace : Workspace} (traced : workspace.Traced) {id : NodeId}
    (new : id.graph = workspace.graphs.size) : workspace.node? id = none := by
  have graph : workspace.graphs.get? id.graph = none := by
    rw [new]
    exact List.getElem?_eq_none (Nat.le_refl _)
  have removed : workspace.detached.find? (fun node => node.id == id) = none := by
    rw [List.find?_eq_none]
    intro node member same
    have old := traced node member
    rw [beq_iff_eq.mp same, new] at old
    exact Nat.lt_irrefl _ old
  simp [node?, graph, removed]

/-- A copy does not fail. It is a graph of new nodes with the kinds, names and parameters of the original's nodes, in their
    order, and with the original's links between the nodes that correspond, in their order. From then on edits of one of the
    two graphs leave the other as it is. -/
theorem copy_snapshot (limits : Limits) (graph compiler : String) (name : Option String) (calls : List Call)
    (source handle : String) {tree : Graph}
    (known : ((start limits graph compiler name).perform calls).tree? source = some tree) :
    let before := (start limits graph compiler name).perform calls
    ∃ copied after, (copy source handle).outcome before = (.ok copied, after) ∧
      tree.Mirrors copied (·.moved copied.key) ∧ (∀ node ∈ copied.nodes, before.node? node.id = none) ∧
      tree.key ≠ copied.key ∧ after.tree? handle = some copied ∧
      after.graphs.get? tree.key = some tree ∧ after.graphs.get? copied.key = some copied ∧
      after.Isolated tree.key ∧ after.Isolated copied.key := by
  intro before
  have initial := sound_start limits graph compiler name
  have sound : before.Sound := perform_sound initial calls
  have traced : before.Traced := perform_traced initial (by simp [Traced, start]) calls
  obtain ⟨number, held, found⟩ := Option.bind_eq_some_iff.mp known
  obtain ⟨built, key⟩ := sound number tree found
  have old : tree.key ≠ before.graphs.size := by
    rw [key]
    exact Nat.ne_of_lt (Registry.lt_size_of_get? found)
  obtain ⟨after, outcome, graphs, _⟩ := outcome_copy known handle (Graph.copy_eq built.sound before.graphs.size)
  have here : after.graphs.get? before.graphs.size = some (tree.moved before.graphs.size) := by
    rw [graphs, Registry.get?_register, if_pos rfl]
  have keyed : after.Keyed := by
    have alters := Change.run_keyed sound.keyed (.call (.copy source handle))
    rwa [Change.run, Call.run, Step.outcome_bind_ok outcome, Step.outcome_pure] at alters
  refine ⟨_, after, outcome, built.sound.mirrors _, ?_, old, ?_, ?_, here, keyed.isolated _, keyed.isolated _⟩
  · intro node member
    obtain ⟨original, _, rfl⟩ := List.mem_map.mp member
    exact traced.node?_eq_none rfl
  · rw [tree?, graphs, Registry.number?_register, Option.bind_some, ← graphs, here]
  · rw [graphs, Registry.get?_register, if_neg old, key, found]

theorem tree?_revised {workspace : Workspace} {handle : String} {tree result : Graph} {request : Graph.Request}
    (keyed : workspace.Keyed) (known : workspace.tree? handle = some tree) (applied : request.apply tree = .ok result) :
    ((revise handle request).outcome workspace).2.Keyed ∧
      ((revise handle request).outcome workspace).2.tree? handle = some result := by
  obtain ⟨number, held, found⟩ := Option.bind_eq_some_iff.mp known
  refine ⟨Change.run_keyed keyed (.call (.revise handle request)), ?_⟩
  have revised := revise_revised held found request
  generalize (revise handle request).outcome workspace = outcome at revised ⊢
  rw [applied] at revised
  cases revised with
  | @done _ after graphs =>
    have kept : after.graphs.number? handle = some number := by
      rw [graphs]
      exact held
    rw [tree?, kept, Option.bind_some, graphs, Registry.get?_update, if_pos rfl, found, Option.map_some]

theorem tree?_perform {workspace : Workspace} {handle : String} {tree result : Graph} {requests : List Graph.Request}
    (keyed : workspace.Keyed) (known : workspace.tree? handle = some tree)
    (applied : requests.foldlM (fun graph request => request.apply graph) tree = .ok result) :
    (workspace.perform (requests.map (.revise handle))).tree? handle = some result := by
  induction requests generalizing workspace tree with
  | nil =>
    cases applied
    exact known
  | cons request requests ih =>
    rw [List.foldlM_cons, bind_eq_ok_iff] at applied
    obtain ⟨next, first, rest⟩ := applied
    obtain ⟨keyed, known⟩ := tree?_revised keyed known first
    exact ih keyed known rest

end Workspace

def Graph.knotted : Graph where
  key := 0
  name := standardName
  nodes := [⟨⟨0, 0⟩, .extend, "grow", [("amount", .number .one)]⟩, ⟨⟨0, 1⟩, .preview, "view", []⟩]
  links := [⟨⟨0, 1⟩, "output", ⟨0, 1⟩, "input"⟩, ⟨⟨0, 1⟩, "output", ⟨0, 0⟩, "value"⟩]
  issued := 2

def Graph.knotting : List Graph.Request :=
  let grow : Node := ⟨⟨0, 0⟩, .extend, "grow", []⟩
  let view : Node := ⟨⟨0, 1⟩, .preview, "view", []⟩
  [ .new .extend (some "grow") [("amount", .int 1)], .new .preview (some "view") [], .link grow "vec" view "input",
    .unlink view "input", .link view "output" view "input", .link view "output" grow "value" ]

theorem Graph.knotting_knotted :
    knotting.foldlM (fun graph request => request.apply graph) (Graph.empty 0 standardName) = .ok knotted := by
  have amount : NodeKind.extend.accept [("amount", .int 1)] = .ok [("amount", .number .one)] := by
    have one : (Value.int 1).toFinite = .ok .one := by rw [Value.toFinite, Binary64.ofInt?_one]
    simp [NodeKind.accept, Params.declared, Params.get?, NodeKind.params, one, Params.set]
  let grow : Node := ⟨⟨0, 0⟩, .extend, "grow", [("amount", .number .one)]⟩
  let view : Node := ⟨⟨0, 1⟩, .preview, "view", []⟩
  have first : (Request.new .extend (some "grow") [("amount", .int 1)]).apply (Graph.empty 0 standardName) =
      .ok ⟨0, standardName, [grow], [], 1⟩ := by
    rw [Request.apply, new_of_fresh .extend rfl amount (by decide) (by decide)]
    rfl
  have second : (Request.new .preview (some "view") []).apply ⟨0, standardName, [grow], [], 1⟩ =
      .ok ⟨0, standardName, [grow, view], [], 2⟩ := by
    rw [Request.apply, new_of_fresh .preview rfl rfl (by decide) (by decide)]
    rfl
  have linked : (knotting.drop 2).foldlM (fun graph request => request.apply graph)
      ⟨0, standardName, [grow, view], [], 2⟩ = .ok knotted := rfl
  rw [knotting, List.foldlM_cons, bind_eq_ok_iff]
  refine ⟨_, first, ?_⟩
  rw [List.foldlM_cons, bind_eq_ok_iff]
  exact ⟨_, second, linked⟩

theorem Workspace.copy_snapshot_knotted :
    let before := (start .standard "t" "c" none).perform (Graph.knotting.map (.revise "t"))
    let elsewhere : List Change := [.setParam ⟨⟨1, 0⟩, .extend, "grow", []⟩ "amount" (.text "wide"),
      .rename ⟨⟨1, 1⟩, .preview, "view", []⟩ "grow"]
    before.tree? "t" = some Graph.knotted ∧
    ∃ copied after, (copy "t" "u").outcome before = (.ok copied, after) ∧
      Graph.knotted.Mirrors copied (·.moved copied.key) ∧ (∀ node ∈ copied.nodes, before.node? node.id = none) ∧
      after.tree? "u" = some copied ∧ after.Spares 0 elsewhere ∧
      (after.alter elsewhere).graphs.get? 0 = some Graph.knotted := by
  intro before elsewhere
  have known : before.tree? "t" = some Graph.knotted :=
    tree?_perform (sound_start .standard "t" "c" none).keyed rfl Graph.knotting_knotted
  obtain ⟨copied, after, outcome, mirrors, new, _, named, here, _, isolated, _⟩ :=
    copy_snapshot .standard "t" "c" none _ "t" "u" known
  have spared : after.Spares 0 elsewhere := ⟨Nat.one_ne_zero, Nat.one_ne_zero, trivial⟩
  exact ⟨known, copied, after, outcome, mirrors, new, named, spared, isolated [] elsewhere _ here spared⟩

end ShaderGraph
