import ShaderGraph.Proofs.Graph.Built

namespace ShaderGraph

theorem Decimal.ofDigitChars_padLeft (width : Nat) (digits : List Char) :
    Nat.ofDigitChars 10 (padLeft width digits) 0 = Nat.ofDigitChars 10 digits 0 := by
  unfold padLeft
  generalize width - digits.length = count
  induction count with
  | zero => rfl
  | succ count ih => simpa [List.replicate_succ, Nat.ofDigitChars] using ih

theorem number3_injective {m n : Nat} (same : number3 m = number3 n) : m = n := by
  unfold number3 at same
  have padded := congrArg (fun digits => Nat.ofDigitChars 10 digits 0) (String.ofList_inj.mp same)
  simpa [Decimal.ofDigitChars_padLeft, Decimal.digitText] using padded

namespace Graph

theorem numberedName_injective {base : String} {m n : Nat} (same : numberedName base m = numberedName base n) : m = n := by
  simp only [numberedName, ← String.toList_inj, String.toList_append, List.append_assoc,
    List.append_cancel_left_eq] at same
  exact number3_injective (String.toList_inj.mp same)

theorem numberedName_ne (base : String) (n : Nat) : numberedName base n ≠ base := by
  intro same
  simp [numberedName, ← String.toList_inj] at same

def nameChoice (base : String) : Nat → String
  | 0 => base
  | n + 1 => numberedName base (n + 1)

theorem nameChoice_injective {base : String} {m n : Nat} (same : nameChoice base m = nameChoice base n) : m = n := by
  cases m with
  | zero =>
    cases n with
    | zero => rfl
    | succ n => exact absurd same.symm (numberedName_ne base _)
  | succ m =>
    cases n with
    | zero => exact absurd same (numberedName_ne base _)
    | succ n => exact numberedName_injective same

/-- If the base is taken, one of the numbers up to the count of the nodes gives a free name. -/
theorem exists_free_number {graph : Graph} {base : String} (used : base ∈ graph.nodes.map Node.name) :
    ∃ n, 1 ≤ n ∧ n ≤ graph.nodes.length ∧ numberedName base n ∉ graph.nodes.map Node.name := by
  obtain ⟨n, inReach, free⟩ := exists_lt_not_mem (f := nameChoice base) nameChoice_injective (graph.nodes.map Node.name)
  rw [List.length_map] at inReach
  -- The base is the choice before the numbers. It is taken by one of the nodes, so the last number in reach is their count.
  cases n with
  | zero => exact absurd used free
  | succ n => exact ⟨n + 1, by omega, by omega, free⟩

theorem uniqueName_of_used {graph : Graph} {base : String} (used : base ∈ graph.nodes.map Node.name) :
    ∃ n ≤ graph.nodes.length, graph.uniqueName base = numberedName base n ∧ SearchEnds (graph.freeNumber base) 1 n := by
  obtain ⟨k, positive, inReach, free⟩ := exists_free_number used
  have accepted : graph.freeNumber base k = true := decide_eq_true free
  have ends : SearchEnds (graph.freeNumber base) 1 (searchFrom (graph.freeNumber base) 1 graph.nodes.length) :=
    searchFrom_ends positive (by omega) accepted
  have least := ends.le positive accepted
  exact ⟨_, Nat.le_trans least inReach, by rw [uniqueName_eq, if_pos used], ends⟩

theorem uniqueName_fresh (graph : Graph) (base : String) : graph.uniqueName base ∉ graph.nodes.map Node.name := by
  by_cases used : base ∈ graph.nodes.map Node.name
  · obtain ⟨n, _, found, ends⟩ := uniqueName_of_used used
    rw [found]
    exact of_decide_eq_true ends.holds
  · rw [uniqueName_of_fresh used]
    exact used

structure FirstFree (graph : Graph) (base name : String) : Prop where
  free : name ∉ graph.nodes.map Node.name
  plain : base ∉ graph.nodes.map Node.name → name = base
  numbered : base ∈ graph.nodes.map Node.name → ∃ n, 1 ≤ n ∧ n ≤ graph.nodes.length ∧ name = numberedName base n ∧
    SearchEnds (graph.freeNumber base) 1 n ∧
    ∀ k, 1 ≤ k → k < n → numberedName base k ∈ graph.nodes.map Node.name

/-- Whatever names the nodes have, the search for one more ends at the first that is free, after as many numbers as there
    are nodes at most. A number is written with zeros in front up to three digits. -/
theorem uniqueName_firstFree (graph : Graph) (base : String) :
    graph.FirstFree base (graph.uniqueName base) ∧
      ∀ n, numberedName base n = base ++ "." ++ String.ofList ((Nat.toDigits 10 n).leftpad 3 '0') := by
  refine ⟨⟨graph.uniqueName_fresh base, uniqueName_of_fresh, ?_⟩, fun n => rfl⟩
  intro used
  obtain ⟨n, inReach, found, ends⟩ := uniqueName_of_used used
  refine ⟨n, ends.start_le, inReach, found, ends, ?_⟩
  intro k positive before
  have taken := of_decide_eq_false (ends.refuses positive before)
  exact Classical.not_not.mp taken

example : numberedName "Vector" 7 = "Vector.007" ∧ numberedName "Vector" 1000 = "Vector.1000" := by decide

theorem new_name {graph result : Graph} {kind : NodeKind} {name : Option String} {given : Params} {node : Node}
    (made : graph.new kind name given = .ok (result, node)) : node.name ∉ graph.nodes.map Node.name := by
  simp only [new_eq, Node.create, bind_eq_ok_iff, pure, Except.pure, Except.ok.injEq, Prod.mk.injEq] at made
  obtain ⟨_, _, _, ⟨_, _, rfl⟩, _, rfl⟩ := made
  exact graph.uniqueName_fresh _

theorem Edit.names {graph result : Graph} (edit : graph.Edit result) (distinct : (graph.nodes.map Node.name).Nodup) :
    (result.nodes.map Node.name).Nodup := by
  cases edit with
  | new made =>
    have fresh := new_name made
    obtain rfl := new_eq_ok made
    rw [List.map_append, List.map_singleton]
    exact List.nodup_append.mpr ⟨distinct, by simp, fun name used other added same => fresh (by simp_all)⟩
  | link made =>
    rw [(link_eq_ok made).1]
    exact distinct
  | unlink => exact distinct
  | remove made =>
    rw [remove_eq_ok made]
    exact distinct.sublist (List.filter_sublist.map _)
  | copy made =>
    obtain ⟨copies, created, rfl⟩ := copy_eq_ok made
    have names := congrArg (List.map fun entry => entry.2.2) (copied_nodes created).1
    simp only [List.map_map, Function.comp_def] at names
    show (copies.map Node.name).Nodup
    rw [names]
    exact distinct

theorem Built.names {graph : Graph} (built : graph.Built) : (graph.nodes.map Node.name).Nodup := by
  induction built with
  | empty key name => simp [Graph.empty]
  | edit _ edit ih => exact edit.names ih

end Graph

end ShaderGraph
