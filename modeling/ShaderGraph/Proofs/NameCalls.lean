import ShaderGraph.Proofs.Issuing

namespace ShaderGraph

inductive NameCall where
  | declare (name expression : String)
  | next (stem : String)

namespace NameTable

def call (table : NameTable) : NameCall → String × NameTable
  | .declare name expression => table.declare name expression
  | .next stem => table.next stem

def afterCalls (table : NameTable) (calls : List NameCall) : NameTable :=
  calls.foldl (fun table call => (table.call call).2) table

def answer (table : NameTable) (earlier : List NameCall) (call : NameCall) : String :=
  ((table.afterCalls earlier).call call).1

theorem afterCalls_append (table : NameTable) (earlier later : List NameCall) :
    table.afterCalls (earlier ++ later) = (table.afterCalls earlier).afterCalls later := by
  simp [afterCalls]

theorem afterCalls_cons (table : NameTable) (call : NameCall) (later : List NameCall) :
    table.afterCalls (call :: later) = (table.call call).2.afterCalls later := rfl

theorem accepts_iff {table : NameTable} {expression name : String} :
    table.accepts expression name = true ↔
      table.expression? name = none ∨ table.expression? name = some expression := by
  unfold accepts
  cases table.expression? name with
  | none => simp
  | some known => simp

theorem call_kept (table : NameTable) (call : NameCall) : table.Kept (table.call call).2 := by
  cases call with
  | declare name expression => exact table.declare_kept name expression
  | next stem => exact .refl table

theorem call_bound (table : NameTable) (call : NameCall) :
    (table.call call).2.bound = table.bound ∨
      ∃ name expression, table.expression? name = none ∧
        (table.call call).2.bound = (name, expression) :: table.bound := by
  cases call with
  | next stem => exact .inl rfl
  | declare name expression =>
    show (table.declare name expression).2.bound = table.bound ∨ _
    by_cases free : table.isFree (table.declare name expression).1 = true
    · right
      refine ⟨(table.declare name expression).1, expression, by simpa [isFree] using free, ?_⟩
      simp only [declare] at free
      simp [call, declare, bind, free]
    · left
      simp only [declare] at free
      simp [declare, bind, free]

theorem afterCalls_kept (table : NameTable) (calls : List NameCall) : table.Kept (table.afterCalls calls) := by
  induction calls generalizing table with
  | nil => exact .refl table
  | cons call calls ih => exact (table.call_kept call).trans (ih _)

structure Steady (table : NameTable) : Prop where
  first : ∀ earlier name expression, ∃ k ≤ (table.afterCalls earlier).bound.length,
    table.answer earlier (.declare name expression) = candidate (Identifier.sanitize name) k ∧
      ((table.afterCalls earlier).expression? (candidate (Identifier.sanitize name) k) = none ∨
        (table.afterCalls earlier).expression? (candidate (Identifier.sanitize name) k) = some expression) ∧
      ∀ j < k, ∃ other, other ≠ expression ∧
        (table.afterCalls earlier).expression? (candidate (Identifier.sanitize name) j) = some other
  kept : ∀ earlier later, (table.afterCalls earlier).Kept (table.afterCalls (earlier ++ later))
  grows : ∀ earlier call, (table.afterCalls (earlier ++ [call])).bound = (table.afterCalls earlier).bound ∨
    ∃ name expression, (table.afterCalls earlier).expression? name = none ∧
      (table.afterCalls (earlier ++ [call])).bound = (name, expression) :: (table.afterCalls earlier).bound
  agrees : ∀ earlier between name expression other otherExpression,
    table.answer (earlier ++ .declare name expression :: between) (.declare other otherExpression) =
      table.answer earlier (.declare name expression) → otherExpression = expression
  repeats : ∀ earlier between name expression,
    table.answer (earlier ++ .declare name expression :: between) (.declare name expression) =
      table.answer earlier (.declare name expression)

/-- A declaration ends with the first candidate that is free or stands for its expression. Definitions stay, each call
    makes one at most, a name is answered for one expression only, and the same declaration has the same answer at any
    later time. -/
theorem naming_laws (table : NameTable) : table.Steady := by
  -- After a declaration and some calls, its definition still stands where the search for it ends.
  have later (earlier between : List NameCall) (name expression : String) :
      (table.afterCalls (earlier ++ .declare name expression :: between)).Issued (Identifier.sanitize name) expression
        (table.answer earlier (.declare name expression)) := by
    rw [afterCalls_append, afterCalls_cons]
    exact ((table.afterCalls earlier).declare_issued name expression).mono (afterCalls_kept _ between)
  constructor
  · intro earlier name expression
    obtain ⟨k, inReach, answered, accepted, refused⟩ := (table.afterCalls earlier).declare_first name expression
    refine ⟨k, inReach, answered, accepts_iff.mp accepted, ?_⟩
    intro j before
    have taken := refused j before
    unfold accepts at taken
    cases known : (table.afterCalls earlier).expression? (candidate (Identifier.sanitize name) j) with
    | none => simp [known] at taken
    | some other => exact ⟨other, by simpa [known] using taken, rfl⟩
  · intro earlier later
    rw [afterCalls_append]
    exact afterCalls_kept _ later
  · intro earlier call
    rw [afterCalls_append]
    exact call_bound _ call
  · intro earlier between name expression other otherExpression same
    have known := (table.afterCalls (earlier ++ .declare name expression :: between)).declare_recorded other
      otherExpression
    obtain ⟨_, _, recorded, _⟩ := later earlier between name expression
    have stays := declare_kept _ other otherExpression _ _ recorded
    rw [← same] at stays
    exact Option.some.inj (known.symm.trans stays)
  · intro earlier between name expression
    show ((table.afterCalls _).declare name expression).1 = _
    rw [(later earlier between name expression).declare_eq]

end NameTable

end ShaderGraph
