import ShaderGraph.Proofs.History
import ShaderGraph.Proofs.NameCalls

namespace ShaderGraph

open Shading

namespace NameTable

theorem counter_declare (table : NameTable) (name code stem : String) :
    (table.declare name code).2.counter stem = table.counter stem := by
  simp only [declare, bind]
  split <;> rfl

structure Novel (table : NameTable) : Prop where
  found : ∀ earlier stem, ∃ n,
    n ≤ (table.afterCalls earlier).counter (Identifier.sanitize stem) + (table.afterCalls earlier).bound.length ∧
      table.answer earlier (.next stem) = numbered (Identifier.sanitize stem) n
  free : ∀ earlier stem, (table.afterCalls earlier).expression? (table.answer earlier (.next stem)) = none
  new : ∀ earlier between stem other,
    table.answer (earlier ++ .next stem :: between) (.next other) ≠ table.answer earlier (.next stem)

theorem counter_le_call (table : NameTable) (call : NameCall) (stem : String) :
    table.counter stem ≤ (table.call call).2.counter stem := by
  cases call with
  | declare name code => exact Nat.le_of_eq (table.counter_declare name code stem).symm
  | next other =>
    obtain ⟨n, low, _, issued, _⟩ := table.next_first other
    show table.counter stem ≤ (table.next other).2.counter stem
    rw [issued, counter_setCounter]
    split
    · rename_i same
      rw [same]
      omega
    · exact Nat.le_refl _

theorem counter_le_afterCalls (table : NameTable) (calls : List NameCall) (stem : String) :
    table.counter stem ≤ (table.afterCalls calls).counter stem := by
  induction calls generalizing table with
  | nil => exact Nat.le_refl _
  | cons call calls ih => exact Nat.le_trans (table.counter_le_call call stem) (ih _)

theorem novel (table : NameTable) : table.Novel := by
  constructor
  · intro earlier stem
    obtain ⟨n, _, high, issued, _⟩ := (table.afterCalls earlier).next_first stem
    exact ⟨n, high, congrArg Prod.fst issued⟩
  · intro earlier stem
    obtain ⟨n, _, _, issued, free, _⟩ := (table.afterCalls earlier).next_first stem
    show (table.afterCalls earlier).expression? ((table.afterCalls earlier).next stem).1 = none
    rw [issued]
    exact free
  · intro earlier between stem other same
    -- The counter of a stem passes every number that was given out with it.
    obtain ⟨n, _, _, issued, _⟩ := (table.afterCalls earlier).next_first stem
    obtain ⟨m, low, _, again, _⟩ := (table.afterCalls (earlier ++ .next stem :: between)).next_first other
    have counted : ((table.afterCalls earlier).next stem).2.counter (Identifier.sanitize stem) = n + 1 := by
      rw [issued, counter_setCounter, if_pos rfl]
    have passed : n + 1 ≤ (table.afterCalls (earlier ++ .next stem :: between)).counter (Identifier.sanitize stem) := by
      rw [afterCalls_append, afterCalls_cons, ← counted]
      exact counter_le_afterCalls _ between _
    have texts : numbered (Identifier.sanitize other) m = numbered (Identifier.sanitize stem) n :=
      calc numbered (Identifier.sanitize other) m
        _ = table.answer (earlier ++ .next stem :: between) (.next other) := (congrArg Prod.fst again).symm
        _ = table.answer earlier (.next stem) := same
        _ = numbered (Identifier.sanitize stem) n := congrArg Prod.fst issued
    obtain ⟨stems, numbers⟩ := numbered_injective texts
    rw [stems] at low
    omega

def letterEnd (name : String) : Bool := name.toList.getLast?.any (fun c => c.isAlphanum && !c.isDigit && c != 'c')

theorem letterEnd_numbered (stem : String) (n : Nat) : letterEnd (numbered stem n) = false := by
  obtain ⟨c, last, digit⟩ := getLast?_numbered stem n
  rw [letterEnd, last]
  simp [digit]

theorem letterEnd_sanitize {name : String} (letter : letterEnd name = true) :
    letterEnd (Identifier.sanitize name) = true := by
  apply any_getLast?_sanitize _ letter
  intro c ends
  rw [Bool.and_eq_true, Bool.and_eq_true] at ends
  exact ends.1.1

theorem declare_ne_numbered (table : NameTable) {name : String} (letter : letterEnd name = true) (code : String) (n : Nat) :
    (table.declare name code).1 ≠ numbered "vec" n := by
  obtain ⟨k, issued, _⟩ := table.declare_cases name code
  have clean := letterEnd_sanitize letter
  rw [issued]
  cases k with
  | zero =>
    intro same
    rw [show Identifier.sanitize name = numbered "vec" n from same, letterEnd_numbered] at clean
    cases clean
  | succ k =>
    -- A suffix against a clash leaves the text itself as the stem, and `vec` has another end.
    intro same
    rw [(numbered_injective same).1] at clean
    revert clean
    decide

structure VectorsKept (table later : NameTable) : Prop where
  counter : later.counter "vec" = table.counter "vec"
  names : ∀ n, later.expression? (numbered "vec" n) = table.expression? (numbered "vec" n)

theorem VectorsKept.refl (table : NameTable) : table.VectorsKept table := ⟨rfl, fun _ => rfl⟩

theorem VectorsKept.trans {first second third : NameTable} (left : first.VectorsKept second)
    (right : second.VectorsKept third) : first.VectorsKept third :=
  ⟨right.counter.trans left.counter, fun n => (right.names n).trans (left.names n)⟩

theorem declare_vectorsKept (table : NameTable) {name : String} (letter : letterEnd name = true) (code : String) :
    table.VectorsKept (table.declare name code).2 := by
  refine ⟨table.counter_declare name code _, fun n => ?_⟩
  have other := table.declare_ne_numbered letter code n
  simp only [declare] at other ⊢
  rw [expression?_bind, if_neg (fun asked => other asked.1.symm)]

def Ready (table : NameTable) : Prop :=
  ∀ n, table.counter "vec" ≤ n → table.expression? (numbered "vec" n) = none

theorem Ready.kept {table later : NameTable} (ready : table.Ready) (kept : table.VectorsKept later) : later.Ready := by
  intro n low
  rw [kept.counter] at low
  rw [kept.names]
  exact ready n low

theorem Ready.next_eq {table : NameTable} (ready : table.Ready) :
    table.next "vec" = (numbered "vec" (table.counter "vec"), table.setCounter "vec" (table.counter "vec" + 1)) := by
  obtain ⟨n, low, _, issued, _, taken⟩ := table.next_first "vec"
  rw [sanitize_vec] at low issued taken
  have first : n = table.counter "vec" := by
    apply Nat.le_antisymm _ low
    apply Nat.le_of_not_lt
    intro before
    have bound := taken _ (Nat.le_refl _) before
    rw [ready _ (Nat.le_refl _)] at bound
    cases bound
  rw [issued, first]

theorem Ready.declare {table : NameTable} (ready : table.Ready) (code : String) :
    let result := (table.next "vec").2.declare (table.next "vec").1 code
    result.1 = numbered "vec" (table.counter "vec") ∧ result.2.counter "vec" = table.counter "vec" + 1 ∧
      result.2.Ready := by
  intro result
  have named : result.1 = numbered "vec" (table.counter "vec") :=
    (table.declare_next (by decide) code).trans (congrArg Prod.fst ready.next_eq)
  have counted : result.2.counter "vec" = table.counter "vec" + 1 := by
    show ((table.next "vec").2.declare _ code).2.counter "vec" = _
    rw [counter_declare, ready.next_eq, counter_setCounter, if_pos rfl]
  refine ⟨named, counted, ?_⟩
  intro n low
  rw [counted] at low
  cases known : result.2.expression? (numbered "vec" n) with
  | none => rfl
  | some other =>
    rcases expression?_declare known with old | ⟨same, _⟩
    · have old : table.expression? (numbered "vec" n) = some other := old
      rw [ready n (by omega)] at old
      cases old
    · have number := (numbered_injective (same.trans named)).2
      omega

end NameTable

namespace NodeScope

open NameTable

variable {scope : NodeScope} {names : NameTable} {result : Expression × NameTable}

theorem Derives.vectorsKept (derived : scope.Derives names result) (other : scope.node.kind ≠ .vector)
    (outputs : ∀ lane, scope.output = some lane → lane ∈ scope.node.kind.outputs) : names.VectorsKept result.2 := by
  have part {lane : String} (named : lane ∈ laneNames) (front code : String) (table : NameTable) :
      table.VectorsKept (table.declare (front ++ "_" ++ lane) code).2 := by
    have all : ∀ lane ∈ laneNames, letterEnd lane = true := by decide
    exact table.declare_vectorsKept (any_getLast?_append (all lane named) _) code
  have sample : names.VectorsKept (scope.sampled names).2 := names.declare_vectorsKept (by decide) _
  cases derived with
  | mesh => exact .refl _
  | meshLane kind output notWhole => exact part (NodeKind.mesh?_lane kind (outputs _ output) notWhole).1 _ _ _
  | color => exact sample
  | channel kind output notWhole =>
    exact sample.trans (part (NodeKind.texture_lane (kind ▸ outputs _ output) notWhole) _ _ _)
  | extend => exact names.declare_vectorsKept (any_getLast?_append (by decide) _) _
  | saturate => exact names.declare_vectorsKept (any_getLast?_append (by decide) _) _
  | component kind input output => exact part (NodeKind.component_lane (kind ▸ outputs _ output)) _ _ _
  | vector kind => exact absurd kind other
  | relay => exact .refl _

theorem Derives.vector_numbered (derived : scope.Derives names result) (vector : scope.node.kind = .vector)
    (ready : names.Ready) :
    result.1.var = NameTable.numbered "vec" (names.counter "vec") ∧ result.2.counter "vec" = names.counter "vec" + 1 ∧
      result.2.Ready := by
  obtain ⟨x, y, z, w, _, _, _, _, rfl⟩ := derived.vector_eq vector
  exact ready.declare _

end NodeScope

namespace Graph

def vectorResults (graph : Graph) (memo : List (OutputKey × Expression)) : List (OutputKey × Expression) :=
  memo.reverse.filter fun entry => (graph.find? entry.1.node).any (·.kind == .vector)

theorem vectorResults_vector {graph : Graph} (sound : graph.Sound) {node : Node} (inside : node ∈ graph.nodes)
    (vector : node.kind = .vector) (socket : Option String) (e : Expression) (memo : List (OutputKey × Expression)) :
    graph.vectorResults ((⟨node.id, socket⟩, e) :: memo) = graph.vectorResults memo ++ [(⟨node.id, socket⟩, e)] := by
  simp [vectorResults, find?_of_mem sound inside, vector]

theorem vectorResults_other {graph : Graph} (sound : graph.Sound) {node : Node} (inside : node ∈ graph.nodes)
    (other : node.kind ≠ .vector) (socket : Option String) (e : Expression) (memo : List (OutputKey × Expression)) :
    graph.vectorResults ((⟨node.id, socket⟩, e) :: memo) = graph.vectorResults memo := by
  simp [vectorResults, find?_of_mem sound inside, other]

/-- The variables of the Vector nodes are numbered in the order in which the nodes were resolved, each of them once. -/
structure Numbered (graph : Graph) (memo : List (OutputKey × Expression)) : Prop where
  var : ∀ i entry, (graph.vectorResults memo)[i]? = some entry → entry.2.var = NameTable.numbered "vec" i
  once : ((graph.vectorResults memo).map (·.1.node)).Nodup
  apart : ∀ entry ∈ graph.vectorResults memo, ∀ other ∈ graph.vectorResults memo,
    entry.2.var = other.2.var → entry = other

end Graph

structure Record.Counts (record : Record) (graph : Graph) : Prop where
  vars : (graph.vectorResults record.memo).map (·.2.var) =
    (List.range (graph.vectorResults record.memo).length).map (NameTable.numbered "vec")
  socket : ∀ entry ∈ graph.vectorResults record.memo, entry.1.socket = some "vec"
  counter : record.names.counter "vec" = (graph.vectorResults record.memo).length
  ready : record.names.Ready

namespace Scene

variable {σ : Type} {scene : Scene σ} {options : Options} {run : Run σ}

theorem vector_socket {node : Node} {asked socket : Option String} (declared : node.output asked = .ok socket)
    (vector : node.kind = .vector) : socket = some "vec" := by
  cases asked with
  | none =>
    simp only [Node.output, Except.ok.injEq] at declared
    rw [← declared, vector]
    rfl
  | some lane =>
    obtain ⟨rfl, _⟩ := output_some declared
    have only := Node.output_mem declared lane rfl
    rw [vector] at only
    exact congrArg some (List.mem_singleton.mp only)

theorem settles_counts (sound : scene.graph.Sound) {record later : Record}
    (settles : scene.Settles (· ∈ scene.graph.nodes) options record later) (counts : record.Counts scene.graph) :
    later.Counts scene.graph := by
  cases settles with
  | @output node asked socket inputs result inside declared fed derived =>
    by_cases vector : node.kind = .vector
    · have more := Graph.vectorResults_vector sound inside vector socket result.1 record.memo
      obtain ⟨named, counted, ready⟩ := derived.vector_numbered vector counts.ready
      constructor
      · simp only [more, List.map_append, List.length_append, List.length_singleton, List.range_succ, counts.vars]
        rw [List.map_singleton, List.map_singleton, named, counts.counter]
      · intro entry member
        rw [more, List.mem_append, List.mem_singleton] at member
        rcases member with old | rfl
        · exact counts.socket entry old
        · exact vector_socket declared vector
      · simp only [more, List.length_append, List.length_singleton, counted, counts.counter]
      · exact ready
    · have same := Graph.vectorResults_other sound inside vector socket result.1 record.memo
      have kept := derived.vectorsKept vector (Node.output_mem declared)
      constructor
      · simp only [same, counts.vars]
      · simpa only [same] using counts.socket
      · simp only [same, kept.counter, counts.counter]
      · exact counts.ready.kept kept

theorem History.counts (history : scene.History options run) (sound : scene.graph.Sound) :
    run.pass.record.Counts scene.graph :=
  history.progress.2.preserves (fun record => record.Counts scene.graph) (settles_counts sound)
    ⟨rfl, by simp [Graph.vectorResults], rfl, fun _ _ => rfl⟩

/-- In any sequence of calls a fresh name stands for nothing when it is given out, and is none of those given out before.
    In a pass, whatever is resolved in it, the Vector node that is resolved after `i` others has the variable `vec_i`. -/
theorem fresh_names (table : NameTable) (built : scene.graph.Built) (history : scene.History options run) :
    table.Novel ∧ scene.graph.Numbered run.pass.memo := by
  have counts := history.counts built.sound
  have var (i : Nat) (entry : OutputKey × Expression)
      (found : (scene.graph.vectorResults run.pass.memo)[i]? = some entry) :
      entry.2.var = NameTable.numbered "vec" i := by
    obtain ⟨inReach, _⟩ := List.getElem?_eq_some_iff.mp found
    have both := congrArg (·[i]?) counts.vars
    simp only [Pass.record, List.getElem?_map, found, List.getElem?_range inReach, Option.map_some] at both
    exact Option.some.inj both
  refine ⟨table.novel, var, ?_, ?_⟩
  · have keys : ((scene.graph.vectorResults run.pass.memo).map Prod.fst).Nodup := by
      have reversed : (run.pass.memo.reverse.map Prod.fst).Nodup := by
        rw [List.map_reverse, List.nodup_reverse]
        exact history.once
      exact reversed.sublist (List.filter_sublist.map _)
    have whole (entry : OutputKey × Expression) (member : entry ∈ scene.graph.vectorResults run.pass.memo) :
        entry.1 = ⟨entry.1.node, some "vec"⟩ := by
      rw [← counts.socket entry member]
    rw [List.Nodup, List.pairwise_map] at keys ⊢
    refine keys.imp_of_mem fun {first second} left right different same => different ?_
    rw [whole first left, whole second right, same]
  · intro entry member other otherMember same
    obtain ⟨i, found⟩ := List.mem_iff_getElem?.mp member
    obtain ⟨j, otherFound⟩ := List.mem_iff_getElem?.mp otherMember
    rw [var i entry found, var j other otherFound] at same
    rw [(NameTable.numbered_injective same).2, otherFound] at found
    exact (Option.some.inj found).symm

end Scene

def Graph.twins : Graph where
  key := 0
  name := standardName
  nodes := [⟨⟨0, 0⟩, .vector, "left", []⟩, ⟨⟨0, 1⟩, .vector, "right", []⟩, ⟨⟨0, 2⟩, .vector, "both", []⟩]
  links := [⟨⟨0, 0⟩, "vec", ⟨0, 2⟩, "x"⟩, ⟨⟨0, 1⟩, "vec", ⟨0, 2⟩, "y"⟩]
  issued := 3

theorem Graph.twins_built : Graph.twins.Built := by
  have left := (Built.empty 0 standardName).add .vector "left" rfl (by decide) (by decide)
  have right := left.add .vector "right" rfl (by decide) (by decide)
  have both := right.add .vector "both" rfl (by decide) (by decide)
  have first := both.join ⟨⟨0, 0⟩, .vector, "left", []⟩ "vec" ⟨⟨0, 2⟩, .vector, "both", []⟩ "x" rfl
  exact first.join ⟨⟨0, 1⟩, .vector, "right", []⟩ "vec" ⟨⟨0, 2⟩, .vector, "both", []⟩ "y" rfl

theorem Scene.fresh_names_twins :
    let scene : Scene (List Emission) := ⟨.shipped, .twins, .recorder .standard⟩
    let run := ((scene.resolve 9 ⟨⟨0, 2⟩, .vector, "both", []⟩ none).outcome ⟨.fresh .standard, [], []⟩).2
    scene.graph.Built ∧ scene.History .standard run ∧
      (scene.graph.vectorResults run.pass.memo).map (fun entry => (entry.1.node, entry.2.var)) =
        [(⟨0, 0⟩, "vec_0"), (⟨0, 1⟩, "vec_1"), (⟨0, 2⟩, "vec_2")] ∧
      run.pass.names.expression? "vec_0" = run.pass.names.expression? "vec_1" ∧
      NameTable.empty.Novel ∧ scene.graph.Numbered run.pass.memo := by
  intro scene run
  have history : scene.History .standard run := (History.start []).resolve 9 (by simp [scene, Graph.twins]) none
  have both := fresh_names .empty Graph.twins_built history
  exact ⟨Graph.twins_built, history, by decide +kernel, by decide +kernel, both⟩

end ShaderGraph
