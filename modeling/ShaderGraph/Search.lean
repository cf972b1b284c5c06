
namespace ShaderGraph

def searchFrom (p : Nat → Bool) (start : Nat) : Nat → Nat
  | 0 => start
  | fuel + 1 => if p start then start else searchFrom p (start + 1) fuel

/-- A search without a bound ends: from `start` on, the numbers that do not satisfy `p` are passed over, up to one that
    does. -/
inductive SearchEnds (p : Nat → Bool) : Nat → Nat → Prop
  | here {n : Nat} (holds : p n = true) : SearchEnds p n n
  | next {start n : Nat} (refused : p start = false) (rest : SearchEnds p (start + 1) n) : SearchEnds p start n

namespace SearchEnds

variable {p : Nat → Bool} {start n k : Nat}

theorem holds (ends : SearchEnds p start n) : p n = true := by
  induction ends with
  | here holds => exact holds
  | next _ _ ih => exact ih

theorem start_le (ends : SearchEnds p start n) : start ≤ n := by
  induction ends with
  | here _ => exact Nat.le_refl _
  | next _ _ ih => exact Nat.le_trans (Nat.le_succ _) ih

theorem refuses (ends : SearchEnds p start n) (reached : start ≤ k) (before : k < n) : p k = false := by
  induction ends with
  | here _ => omega
  | next refused _ ih =>
    rcases Nat.eq_or_lt_of_le reached with rfl | later
    · exact refused
    · exact ih later before

theorem le (ends : SearchEnds p start n) (reached : start ≤ k) (holds : p k = true) : n ≤ k := by
  apply Nat.le_of_not_lt
  intro before
  have refused := ends.refuses reached before
  rw [holds] at refused
  cases refused

end SearchEnds

/-- If one of the numbers in reach satisfies `p`, the bound cuts nothing off. -/
theorem searchFrom_ends {p : Nat → Bool} {start fuel k : Nat} (reached : start ≤ k) (inReach : k < start + fuel)
    (holds : p k = true) : SearchEnds p start (searchFrom p start fuel) := by
  induction fuel generalizing start with
  | zero => omega
  | succ fuel ih =>
    simp only [searchFrom]
    split
    · rename_i accepted
      exact .here accepted
    · rename_i refused
      have later : start ≠ k := by
        rintro rfl
        exact refused holds
      exact .next (Bool.eq_false_iff.mpr refused) (ih (by omega) (by omega))

theorem exists_lt_not_mem {α : Type} {f : Nat → α} (injective : ∀ {j k}, f j = f k → j = k) (taken : List α) :
    ∃ k < taken.length + 1, f k ∉ taken := by
  apply Classical.byContradiction
  intro none
  have all : (List.range (taken.length + 1)).map f ⊆ taken := by
    intro thing member
    obtain ⟨k, inReach, rfl⟩ := List.mem_map.mp member
    apply Classical.byContradiction
    intro free
    exact none ⟨k, List.mem_range.mp inReach, free⟩
  have distinct : ((List.range (taken.length + 1)).map f).Nodup :=
    List.pairwise_map.mpr (List.nodup_range.imp fun different same => different (injective same))
  have fits := distinct.length_le_of_subset all
  rw [List.length_map, List.length_range] at fits
  omega

theorem lookup_filter {α β : Type} [BEq α] [LawfulBEq α] (entries : List (α × β)) (keep : α → Bool) (key : α) :
    (entries.filter (fun entry => keep entry.1)).lookup key = if keep key then entries.lookup key else none := by
  induction entries with
  | nil => simp
  | cons entry entries ih =>
    obtain ⟨marked, value⟩ := entry
    by_cases asked : key = marked
    · subst asked
      cases kept : keep key with
      | true => simp [List.filter_cons_of_pos, kept]
      | false => rw [List.filter_cons_of_neg (by simp [kept]), ih, kept]; rfl
    · have other : (key == marked) = false := beq_eq_false_iff_ne.mpr asked
      cases kept : keep marked with
      | true => rw [List.filter_cons_of_pos (by simp [kept]), List.lookup_cons, List.lookup_cons, other, ih]
      | false => rw [List.filter_cons_of_neg (by simp [kept]), List.lookup_cons, other, ih]

theorem lookup_filter_ne {α β : Type} [BEq α] [LawfulBEq α] [DecidableEq α] (entries : List (α × β)) (key other : α) :
    (entries.filter (·.1 != key)).lookup other = if other = key then none else entries.lookup other := by
  rw [lookup_filter entries (· != key)]
  by_cases asked : other = key <;> simp [asked]

end ShaderGraph
