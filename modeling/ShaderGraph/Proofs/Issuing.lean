import ShaderGraph.Proofs.Names

namespace ShaderGraph

namespace Identifier

theorem collapse_of_not_mem {text : List Char} (plain : '_' ∉ text) : collapse text = text := by
  induction text with
  | nil => rfl
  | cons c rest ih =>
    rw [List.mem_cons, not_or] at plain
    rw [collapse, if_neg (fun double => plain.1 double.1.symm), ih plain.2]

theorem head?_collapse (text : List Char) : (collapse text).head? = text.head? := by
  induction text with
  | nil => rfl
  | cons c rest ih =>
    by_cases double : c = '_' ∧ rest.head? = some '_'
    · rw [collapse, if_pos double, ih, double.2, double.1, List.head?_cons]
    · rw [collapse, if_neg double, List.head?_cons, List.head?_cons]

theorem collapse_collapse (text : List Char) : collapse (collapse text) = collapse text := by
  induction text with
  | nil => rfl
  | cons c rest ih =>
    by_cases double : c = '_' ∧ rest.head? = some '_'
    · rw [collapse, if_pos double, ih]
    · rw [collapse, if_neg double, collapse, head?_collapse, if_neg double, ih]

/-- Two texts are collapsed one by one, unless a run of low lines goes on from the first into the second. -/
theorem collapse_append_apart {front rest : List Char}
    (apart : front.getLast? = some '_' → rest.head? ≠ some '_') :
    collapse (front ++ rest) = collapse front ++ collapse rest := by
  induction front with
  | nil => rfl
  | cons c front ih =>
    cases front with
    | nil =>
      have single : ¬(c = '_' ∧ rest.head? = some '_') := fun double => apart (by simp [double.1]) double.2
      simp [collapse, single]
    | cons d front =>
      have tail := ih (by simpa [List.getLast?_cons_cons] using apart)
      by_cases double : c = '_' ∧ d = '_'
      · rw [List.cons_append, collapse, if_pos (by simpa using double), tail, collapse.eq_2 c,
          if_pos (by simpa using double)]
      · rw [List.cons_append, collapse, if_neg (by simpa using double), tail, collapse.eq_2 c,
          if_neg (by simpa using double), List.cons_append]

theorem collapse_doubled (front rest : List Char) :
    collapse (front ++ '_' :: '_' :: rest) = collapse (front ++ '_' :: rest) := by
  induction front with
  | nil => rw [List.nil_append, collapse, if_pos ⟨rfl, rfl⟩, List.nil_append]
  | cons c front ih =>
    have heads : (front ++ '_' :: '_' :: rest).head? = (front ++ '_' :: rest).head? := by cases front <;> rfl
    rw [List.cons_append, List.cons_append, collapse, collapse, heads, ih]

theorem sanitize_of_word {name result : String} (word : Shading.Word name)
    (collapsed : collapse name.toList = result.toList) (other : result.toList ≠ ['_']) : sanitize name = result := by
  have masked : name.toList.map (fun c => if isNameChar c then c else '_') = name.toList := by
    calc name.toList.map (fun c => if isNameChar c then c else '_')
      _ = name.toList.map id := List.map_congr_left fun c member => if_pos (word.chars c member)
      _ = name.toList := List.map_id _
  have whole : complete result.toList = result.toList := by
    obtain ⟨first, tail, same, notDigit⟩ := word.start
    have head : result.toList.head? = some first := by rw [← collapsed, head?_collapse, same, List.head?_cons]
    generalize result.toList = text at other head
    fun_cases complete text with
    | case1 => cases head
    | case2 => exact absurd rfl other
    | case3 c rest _ digit =>
      cases head
      rw [notDigit] at digit
      cases digit
    | case4 => rfl
  rw [sanitize, sanitizeChars, masked, collapsed, whole, String.ofList_toList]

theorem collapse_complete {text : List Char} (single : collapse text = text) :
    collapse (complete text) = complete text := by
  fun_cases complete text with
  | case1 => rfl
  | case2 => rfl
  | case3 c rest _ digit =>
    have other : c ≠ '_' := by rintro rfl; revert digit; decide
    rw [collapse, if_neg (by simpa using other), single]
  | case4 => exact single

theorem complete_ne_low (text : List Char) : complete text ≠ ['_'] := by
  fun_cases complete text with
  | case1 => decide
  | case2 => decide
  | case3 => simp
  | case4 c rest other _ =>
    intro same
    cases same
    exact other rfl rfl

theorem collapse_sanitize (name : String) : collapse (sanitize name).toList = (sanitize name).toList := by
  rw [sanitize, String.toList_ofList]
  exact collapse_complete (collapse_collapse _)

theorem sanitize_ne_low (name : String) : (sanitize name).toList ≠ ['_'] := by
  rw [sanitize, String.toList_ofList]
  exact complete_ne_low _

theorem sanitize_sanitize (name : String) : sanitize (sanitize name) = sanitize name :=
  sanitize_of_word (sanitize_word name) (collapse_sanitize name) (sanitize_ne_low name)

def EndsLow (name : String) : Prop := name.toList.getLast? = some '_'

instance (name : String) : Decidable (EndsLow name) := inferInstanceAs (Decidable (_ = _))

end Identifier

namespace NameTable

open Shading

/-- A name that stands for the code, where all candidates before it stand for something else. -/
def Issued (table : NameTable) (stem code name : String) : Prop :=
  ∃ k, name = candidate stem k ∧ table.expression? name = some code ∧
    ∀ j < k, ∃ other, table.expression? (candidate stem j) = some other ∧ other ≠ code

theorem Issued.mono {table later : NameTable} {stem code name : String} (issued : table.Issued stem code name)
    (kept : table.Kept later) : later.Issued stem code name := by
  obtain ⟨k, rfl, recorded, taken⟩ := issued
  refine ⟨k, rfl, kept _ _ recorded, ?_⟩
  intro j before
  obtain ⟨other, known, different⟩ := taken j before
  exact ⟨other, kept _ _ known, different⟩

theorem Issued.unique {table : NameTable} {stem code name other : String} (issued : table.Issued stem code name)
    (also : table.Issued stem code other) : name = other := by
  obtain ⟨k, rfl, recorded, taken⟩ := issued
  obtain ⟨l, rfl, otherRecorded, otherTaken⟩ := also
  have refuted {j m : Nat} (before : j < m) (known : table.expression? (candidate stem j) = some code)
      (taken : ∀ j < m, ∃ other, table.expression? (candidate stem j) = some other ∧ other ≠ code) : False := by
    obtain ⟨_, found, different⟩ := taken j before
    rw [known] at found
    cases found
    exact different rfl
  rcases Nat.lt_trichotomy k l with before | rfl | after
  · exact (refuted before recorded otherTaken).elim
  · rfl
  · exact (refuted after otherRecorded taken).elim

theorem declare_issued (table : NameTable) (name code : String) :
    (table.declare name code).2.Issued (Identifier.sanitize name) code (table.declare name code).1 := by
  obtain ⟨k, _, issued, _, refused⟩ := table.declare_first name code
  refine ⟨k, issued, table.declare_recorded name code, ?_⟩
  intro j before
  have taken := refused j before
  simp only [accepts] at taken
  cases known : table.expression? (candidate (Identifier.sanitize name) j) with
  | none => simp [known] at taken
  | some other => exact ⟨other, table.declare_kept name code _ _ known, by simpa [known] using taken⟩

theorem Issued.declare_eq {table : NameTable} {name code issued : String}
    (known : table.Issued (Identifier.sanitize name) code issued) : table.declare name code = (issued, table) := by
  obtain ⟨_, _, ⟨recorded, same⟩ | ⟨free, _, kept, _⟩⟩ := table.declare_cases name code
  · have again := table.declare_issued name code
    rw [same] at again
    exact Prod.ext (again.unique known) same
  · have again := (table.declare_issued name code).unique (known.mono kept)
    obtain ⟨_, _, recorded, _⟩ := known
    rw [again, recorded] at free
    cases free

theorem expression?_declare {table : NameTable} {name code other known : String}
    (recorded : (table.declare name code).2.expression? other = some known) :
    table.expression? other = some known ∨ other = (table.declare name code).1 ∧ known = code := by
  simp only [declare, expression?_bind] at recorded ⊢
  split at recorded
  · rename_i asked
    cases recorded
    exact .inr ⟨asked.1, rfl⟩
  · exact .inl recorded

theorem toList_numbered (stem : String) (n : Nat) :
    (numbered stem n).toList = stem.toList ++ '_' :: (toString n).toList := by
  simp [numbered]

/-- A number behind a clean stem leaves a clean name, unless the stem ends in a low line: then one of two lines is
    dropped. -/
theorem sanitize_numbered {stem : String} (clean : Identifier.sanitize stem = stem) (n : Nat) :
    Identifier.sanitize (numbered stem n) =
      if Identifier.EndsLow stem then stem ++ toString n else numbered stem n := by
  have word : Word stem := clean ▸ Identifier.sanitize_word stem
  have single : Identifier.collapse stem.toList = stem.toList := by
    have collapsed := Identifier.collapse_sanitize stem
    rwa [clean] at collapsed
  have digits : Identifier.collapse (toString n).toList = (toString n).toList :=
    Identifier.collapse_of_not_mem (low_not_mem_digits n)
  have start : (toString n).toList.head? ≠ some '_' := fun first => low_not_mem_digits n (List.mem_of_mem_head? first)
  split
  · rename_i low
    apply Identifier.sanitize_of_word (numbered_word word n)
    · obtain ⟨front, same⟩ := List.getLast?_eq_some_iff.mp low
      calc Identifier.collapse (numbered stem n).toList
        _ = Identifier.collapse (front ++ '_' :: '_' :: (toString n).toList) := by simp [toList_numbered, same]
        _ = Identifier.collapse (front ++ '_' :: (toString n).toList) := Identifier.collapse_doubled _ _
        _ = Identifier.collapse (stem.toList ++ (toString n).toList) := by simp [same]
        _ = stem.toList ++ (toString n).toList := by
          rw [Identifier.collapse_append_apart fun _ => start, single, digits]
        _ = (stem ++ toString n).toList := String.toList_append.symm
    · intro same
      rw [String.toList_append, List.append_eq_singleton_iff] at same
      rcases same with ⟨_, alone⟩ | ⟨_, none⟩
      · exact low_not_mem_digits n (by rw [alone]; exact List.mem_singleton_self _)
      · exact digits_ne_nil n none
  · rename_i plain
    apply Identifier.sanitize_of_word (numbered_word word n)
    · rw [toList_numbered, Identifier.collapse_append_apart fun low => absurd low plain, single, Identifier.collapse,
        if_neg (fun double => start double.2), digits]
    · intro same
      rw [toList_numbered, List.append_eq_singleton_iff] at same
      simp at same

theorem next_first (table : NameTable) (stem : String) :
    ∃ n, table.counter (Identifier.sanitize stem) ≤ n ∧
      n ≤ table.counter (Identifier.sanitize stem) + table.bound.length ∧
      table.next stem =
        (numbered (Identifier.sanitize stem) n, table.setCounter (Identifier.sanitize stem) (n + 1)) ∧
      table.expression? (numbered (Identifier.sanitize stem) n) = none ∧
      ∀ j, table.counter (Identifier.sanitize stem) ≤ j → j < n →
        (table.expression? (numbered (Identifier.sanitize stem) j)).isSome := by
  generalize clean : Identifier.sanitize stem = base
  let p := fun n => table.isFree (numbered base n)
  obtain ⟨k, inReach, free⟩ := exists_lt_not_mem (f := fun k => numbered base (table.counter base + k))
    (fun same => Nat.add_left_cancel (numbered_injective same).2) (table.bound.map Prod.fst)
  rw [List.length_map] at inReach
  have unbound : p (table.counter base + k) = true := by
    show (table.bound.lookup _).isNone = true
    rw [Option.isNone_iff_eq_none, List.lookup_eq_none_iff]
    intro entry member
    rw [bne_iff_ne]
    intro same
    exact free (same ▸ List.mem_map_of_mem member)
  have ends : SearchEnds p (table.counter base) (searchFrom p (table.counter base) (table.bound.length + 1)) :=
    searchFrom_ends (Nat.le_add_right _ k) (by omega) unbound
  have least := ends.le (Nat.le_add_right _ k) unbound
  refine ⟨searchFrom p (table.counter base) (table.bound.length + 1), ends.start_le, by omega, ?_, ?_, ?_⟩
  · simp only [next, clean, p]
  · exact Option.isNone_iff_eq_none.mp ends.holds
  · intro j reached before
    have taken := ends.refuses reached before
    simpa [p, isFree] using taken

theorem sanitize_vec : Identifier.sanitize "vec" = "vec" := by decide

theorem next_free (table : NameTable) (stem : String) :
    ∃ n, (table.next stem).1 = numbered (Identifier.sanitize stem) n ∧
      table.expression? (numbered (Identifier.sanitize stem) n) = none := by
  obtain ⟨n, _, _, issued, free, _⟩ := table.next_first stem
  exact ⟨n, by rw [issued], free⟩

theorem declare_next (table : NameTable) {stem : String} (plain : ¬Identifier.EndsLow (Identifier.sanitize stem))
    (code : String) : ((table.next stem).2.declare (table.next stem).1 code).1 = (table.next stem).1 := by
  obtain ⟨n, named, free⟩ := table.next_free stem
  have clean := sanitize_numbered (Identifier.sanitize_sanitize stem) n
  rw [if_neg plain] at clean
  have accepted :
      (table.next stem).2.accepts code (candidate (numbered (Identifier.sanitize stem) n) 0) = true := by
    have untouched : (table.next stem).2.expression? (numbered (Identifier.sanitize stem) n) = none := free
    rw [accepts, candidate, untouched]
  rw [named]
  simp only [declare, clean, searchFrom, accepted, if_true]
  rfl

theorem declare_next_free (table : NameTable) {stem : String} (plain : ¬Identifier.EndsLow (Identifier.sanitize stem))
    (code : String) : table.expression? ((table.next stem).2.declare (table.next stem).1 code).1 = none := by
  obtain ⟨n, named, free⟩ := table.next_free stem
  rw [table.declare_next plain, named]
  exact free

end NameTable

end ShaderGraph
