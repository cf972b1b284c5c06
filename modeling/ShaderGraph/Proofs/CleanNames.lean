import ShaderGraph.Proofs.NameCalls

namespace ShaderGraph

namespace NameTable

open Identifier

theorem clean_numbered_iff (name : String) (n : Nat) :
    sanitize (numbered (sanitize name) n) = numbered (sanitize name) n ↔ ¬EndsLow (sanitize name) := by
  rw [sanitize_numbered (sanitize_sanitize name)]
  split
  · rename_i low
    have shorter : sanitize name ++ toString n ≠ numbered (sanitize name) n := by
      intro same
      have lengths := congrArg (fun text => text.toList.length) same
      simp only [toList_numbered, String.toList_append, List.length_append, List.length_cons] at lengths
      omega
    exact iff_of_false shorter (not_not_intro low)
  · rename_i plain
    exact iff_of_true rfl plain

theorem clean_candidate_iff (name : String) (k : Nat) :
    sanitize (candidate (sanitize name) k) = candidate (sanitize name) k ↔
      candidate (sanitize name) k = sanitize name ∨ ¬EndsLow (sanitize name) := by
  cases k with
  | zero => simp [candidate, sanitize_sanitize]
  | succ k =>
    have other : numbered (sanitize name) (k + 1) ≠ sanitize name := by
      intro same
      exact absurd (candidate_injective (j := k + 1) (k := 0) same) (Nat.succ_ne_zero k)
    simp only [candidate, clean_numbered_iff, other, false_or]

theorem not_endsLow_numbered (stem : String) (n : Nat) : ¬EndsLow (sanitize (numbered stem n)) := by
  obtain ⟨c, last, digit⟩ := getLast?_numbered stem n
  rw [EndsLow, getLast?_sanitize last (by simp [Char.isAlphanum, digit]), Option.some.injEq]
  rintro rfl
  revert digit
  decide

theorem declare_clean_iff (table : NameTable) (name code : String) :
    sanitize (table.declare name code).1 = (table.declare name code).1 ↔
      (table.declare name code).1 = sanitize name ∨ ¬EndsLow (sanitize name) := by
  obtain ⟨k, issued, _⟩ := table.declare_cases name code
  rw [issued]
  exact clean_candidate_iff name k

theorem clean_of_declare_eq {table : NameTable} {name code : String} (plain : ¬EndsLow (sanitize name))
    (same : (table.declare name code).1 = name) : sanitize name = name := by
  have clean := (table.declare_clean_iff name code).mpr (.inr plain)
  rwa [same] at clean

theorem declare_of_known {table : NameTable} {name code : String} (clean : sanitize name = name)
    (known : table.expression? name = some code) : (table.declare name code).1 = name := by
  have issued : table.Issued (sanitize name) code name :=
    ⟨0, clean.symm, known, fun j before => absurd before (Nat.not_lt_zero j)⟩
  rw [issued.declare_eq]

theorem declare_next_iff (table : NameTable) (stem code : String) :
    ((table.next stem).2.declare (table.next stem).1 code).1 = (table.next stem).1 ↔ ¬EndsLow (sanitize stem) := by
  obtain ⟨n, named, _⟩ := table.next_free stem
  constructor
  · intro same
    rw [named] at same
    exact (clean_numbered_iff stem n).mp (clean_of_declare_eq (not_endsLow_numbered _ n) same)
  · intro plain
    exact table.declare_next plain code

theorem declare_again_iff {table later : NameTable} (name code : String) (kept : (table.declare name code).2.Kept later) :
    (later.declare (table.declare name code).1 code).1 = (table.declare name code).1 ↔
      sanitize (table.declare name code).1 = (table.declare name code).1 := by
  have known := kept _ _ (table.declare_recorded name code)
  constructor
  · intro same
    obtain ⟨k, issued, _⟩ := table.declare_cases name code
    cases k with
    | zero =>
      rw [issued]
      exact sanitize_sanitize name
    | succ k =>
      apply clean_of_declare_eq _ same
      rw [issued]
      exact not_endsLow_numbered _ _
  · intro clean
    exact declare_of_known clean known

structure Sanitized (table : NameTable) : Prop where
  next : ∀ earlier stem, sanitize (table.answer earlier (.next stem)) = table.answer earlier (.next stem) ↔
    ¬EndsLow (sanitize stem)
  declare : ∀ earlier name expression,
    sanitize (table.answer earlier (.declare name expression)) = table.answer earlier (.declare name expression) ↔
      table.answer earlier (.declare name expression) = sanitize name ∨ ¬EndsLow (sanitize name)
  fresh : ∀ earlier stem expression,
    table.answer (earlier ++ [.next stem]) (.declare (table.answer earlier (.next stem)) expression) =
      table.answer earlier (.next stem) ↔ ¬EndsLow (sanitize stem)
  again : ∀ earlier between name expression,
    table.answer (earlier ++ .declare name expression :: between)
        (.declare (table.answer earlier (.declare name expression)) expression) =
      table.answer earlier (.declare name expression) ↔
    sanitize (table.answer earlier (.declare name expression)) = table.answer earlier (.declare name expression)

/-- In any sequence of calls a name that is issued is clean, unless it has a number behind a stem that ends in a low line.
    Then, and only then, a declaration of the fresh name, or of the declared name once more, issues another one. -/
theorem issued_clean (table : NameTable) : table.Sanitized := by
  constructor
  · intro earlier stem
    obtain ⟨n, named, _⟩ := (table.afterCalls earlier).next_free stem
    show sanitize ((table.afterCalls earlier).next stem).1 = ((table.afterCalls earlier).next stem).1 ↔ _
    rw [named]
    exact clean_numbered_iff stem n
  · intro earlier name expression
    exact (table.afterCalls earlier).declare_clean_iff name expression
  · intro earlier stem expression
    rw [answer, afterCalls_append]
    exact (table.afterCalls earlier).declare_next_iff stem expression
  · intro earlier between name expression
    rw [answer, afterCalls_append, afterCalls_cons]
    exact declare_again_iff name expression (afterCalls_kept _ between)

/-- A number behind the stem `a_` makes a name with two low lines, which is not clean and is not issued when it is
    declared. -/
theorem issued_clean_doubled :
    let fresh := empty.answer [] (.next "a_")
    let declared := empty.answer [.declare "a_" "uv.x"] (.declare "a_" "uv.y")
    fresh = "a__0" ∧ sanitize fresh ≠ fresh ∧ empty.answer [.next "a_"] (.declare fresh "uv.x") ≠ fresh ∧
      declared = "a__1" ∧ sanitize declared ≠ declared ∧
      empty.answer [.declare "a_" "uv.x", .declare "a_" "uv.y"] (.declare declared "uv.y") ≠ declared := by
  decide +kernel

end NameTable

end ShaderGraph
