import Mathlib.Data.List.Basic
import Mathlib.Data.List.Induction
import ShaderGraph.Expression

namespace ShaderGraph

def Grounded {α : Type} (uses : α → α → Prop) (items : List α) : Prop :=
  ∀ front item back, items = front ++ item :: back → ∀ used, uses item used → used ∈ front

theorem grounded_append_singleton {α : Type} {uses : α → α → Prop} {items : List α} {item : α} :
    Grounded uses (items ++ [item]) ↔ Grounded uses items ∧ ∀ used, uses item used → used ∈ items := by
  constructor
  · intro grounded
    refine ⟨?_, grounded items item [] rfl⟩
    intro front other back same
    exact grounded front other (back ++ [item]) (by simp [same])
  · rintro ⟨grounded, last⟩ front other back same
    rcases List.eq_nil_or_concat back with rfl | ⟨middle, final, rfl⟩
    · obtain ⟨fronts, lasts⟩ := List.append_inj' same rfl
      cases lasts
      rw [← fronts]
      exact last
    · have whole : items ++ [item] = (front ++ other :: middle) ++ [final] := by simpa using same
      exact grounded front other middle (List.append_inj_left' whole rfl)

section Unite

variable {α : Type} [DecidableEq α]

def unite (own other : List α) : List α :=
  other.foldl (fun united item => if item ∈ united then united else united ++ [item]) own

theorem unite_append (own front back : List α) : unite own (front ++ back) = unite (unite own front) back := by
  simp [unite]

theorem unite_singleton (own : List α) (item : α) :
    unite own [item] = if item ∈ own then own else own ++ [item] := rfl

theorem unite_cons (own : List α) (item : α) (other : List α) :
    unite own (item :: other) = unite (if item ∈ own then own else own ++ [item]) other := rfl

theorem mem_unite {own other : List α} {item : α} : item ∈ unite own other ↔ item ∈ own ∨ item ∈ other := by
  induction other generalizing own with
  | nil => simp [unite]
  | cons next other ih =>
    rw [unite_cons, ih]
    split <;> grind

/-- What is taken over stands behind, in the order in which it comes first in the other list. -/
theorem unite_eq_append (own other : List α) :
    ∃ rest, unite own other = own ++ rest ∧ (∀ item, item ∈ rest ↔ item ∈ other ∧ item ∉ own) ∧
      rest.Pairwise (fun first second => other.idxOf first < other.idxOf second) := by
  induction other generalizing own with
  | nil => exact ⟨[], by simp [unite]⟩
  | cons next other ih =>
    -- Items other than the next one come one place later in the longer list.
    have later {rest : List α} (fresh : next ∉ rest)
        (ordered : rest.Pairwise (fun first second => other.idxOf first < other.idxOf second)) :
        rest.Pairwise (fun first second => (next :: other).idxOf first < (next :: other).idxOf second) := by
      refine ordered.imp_of_mem fun {first second} left right before => ?_
      have place {item : α} (member : item ∈ rest) : (next :: other).idxOf item = other.idxOf item + 1 :=
        List.idxOf_cons_ne _ (ne_of_mem_of_not_mem member fresh).symm
      rw [place left, place right]
      omega
    rw [unite_cons]
    split
    · rename_i known
      obtain ⟨rest, united, members, ordered⟩ := ih own
      have fresh : next ∉ rest := fun member => ((members next).mp member).2 known
      refine ⟨rest, united, ?_, later fresh ordered⟩
      intro item
      rw [members]
      grind
    · rename_i absent
      obtain ⟨rest, united, members, ordered⟩ := ih (own ++ [next])
      have fresh : next ∉ rest := fun member => ((members next).mp member).2 (by simp)
      refine ⟨next :: rest, by simp [united], ?_, ?_⟩
      · intro item
        rw [List.mem_cons, members]
        grind
      · refine List.pairwise_cons.mpr ⟨?_, later fresh ordered⟩
        intro item member
        rw [List.idxOf_cons_self, List.idxOf_cons_ne _ (ne_of_mem_of_not_mem member fresh).symm]
        omega

theorem prefix_unite (own other : List α) : own <+: unite own other := by
  obtain ⟨rest, united, _⟩ := unite_eq_append own other
  exact ⟨rest, united.symm⟩

theorem nodup_of_idxOf_lt {rest other : List α}
    (ordered : rest.Pairwise (fun first second => other.idxOf first < other.idxOf second)) : rest.Nodup := by
  refine ordered.imp fun before same => ?_
  rw [same] at before
  exact Nat.lt_irrefl _ before

theorem nodup_unite {own other : List α} (distinct : own.Nodup) : (unite own other).Nodup := by
  obtain ⟨rest, united, members, ordered⟩ := unite_eq_append own other
  rw [united, List.nodup_append]
  refine ⟨distinct, nodup_of_idxOf_lt ordered, ?_⟩
  intro item owned taken member same
  exact ((members taken).mp member).2 (same ▸ owned)

theorem unite_eq_self {own other : List α} (known : ∀ item ∈ other, item ∈ own) : unite own other = own := by
  obtain ⟨rest, united, members, _⟩ := unite_eq_append own other
  have none : rest = [] := by
    apply List.eq_nil_iff_forall_not_mem.mpr
    intro item member
    obtain ⟨given, absent⟩ := (members item).mp member
    exact absent (known item given)
  rw [united, none, List.append_nil]

theorem unite_assoc (first second third : List α) :
    unite (unite first second) third = unite first (unite second third) := by
  induction third generalizing second with
  | nil => rfl
  | cons item third ih =>
    rw [unite_cons, unite_cons second]
    by_cases known : item ∈ second
    · rw [if_pos known, if_pos (mem_unite.mpr (.inr known)), ih]
    · rw [if_neg known, ← ih, unite_append, unite_singleton]

theorem count_unite {own other : List α} {item : α} (given : item ∈ other) (absent : item ∉ own) :
    (unite own other).count item = 1 := by
  obtain ⟨rest, united, members, ordered⟩ := unite_eq_append own other
  have taken : item ∈ rest := (members item).mpr ⟨given, absent⟩
  rw [united, List.count_append, List.count_eq_zero_of_not_mem absent, (nodup_of_idxOf_lt ordered).count, if_pos taken]

theorem Grounded.unite {uses : α → α → Prop} {own other : List α} (left : Grounded uses own)
    (right : Grounded uses other) : Grounded uses (ShaderGraph.unite own other) := by
  induction other using List.reverseRecOn with
  | nil => exact left
  | append_singleton other item ih =>
    obtain ⟨before, last⟩ := grounded_append_singleton.mp right
    rw [unite_append, unite_singleton]
    split
    · exact ih before
    · exact grounded_append_singleton.mpr ⟨ih before, fun used uses => mem_unite.mpr (.inr (last used uses))⟩

theorem merge_map {write : α → Value} {own other : List α}
    (apart : ∀ item ∈ own ++ other, ∀ next ∈ own ++ other, (write item).same (write next) = true ↔ item = next) :
    merge (own.map write) (other.map write) = (unite own other).map write := by
  induction other generalizing own with
  | nil => rfl
  | cons next other ih =>
    have known : (own.map write).any (·.same (write next)) = true ↔ next ∈ own := by
      rw [List.any_map, List.any_eq_true]
      constructor
      · rintro ⟨item, member, same⟩
        rwa [← (apart item (by simp [member]) next (by simp)).mp same]
      · intro member
        exact ⟨next, member, (apart next (by simp) next (by simp)).mpr rfl⟩
    have kept : (if (own.map write).any (·.same (write next)) then own.map write else own.map write ++ [write next]) =
        (if next ∈ own then own else own ++ [next]).map write := by
      by_cases member : next ∈ own
      · rw [if_pos (known.mpr member), if_pos member]
      · rw [if_neg (mt known.mp member), if_neg member, List.map_append, List.map_singleton]
    rw [List.map_cons, merge_cons, kept, unite_cons, ih]
    intro item member following followingMember
    exact apart item (by grind) following (by grind)

end Unite

end ShaderGraph
