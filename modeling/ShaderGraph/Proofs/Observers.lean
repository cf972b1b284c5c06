import Mathlib.Data.List.Induction
import ShaderGraph.Compiler
import ShaderGraph.Proofs.Tandem

namespace ShaderGraph

variable {σ : Type}

inductive Registration where
  | add (observer : Nat)
  | remove (observer : Nat)

namespace Registration

variable {calls before after : List Registration} {call : Registration} {observer position : Nat}

def Stays (calls : List Registration) (observer : Nat) : Prop :=
  ∃ before after, calls = before ++ .add observer :: after ∧ .remove observer ∉ after

/-- The observer is registered by the call at a position: it was not registered before, and no later call removes it. -/
def Since (calls : List Registration) (observer position : Nat) : Prop :=
  ∃ before after, calls = before ++ .add observer :: after ∧ before.length = position ∧ .remove observer ∉ after ∧
    ¬Stays before observer

theorem split_last (calls before after : List Registration) (call other : Registration) :
    calls ++ [call] = before ++ other :: after ↔
      (before = calls ∧ other = call ∧ after = []) ∨ ∃ rest, after = rest ++ [call] ∧ calls = before ++ other :: rest := by
  constructor
  · intro split
    rcases List.eq_nil_or_concat after with rfl | ⟨rest, last, rfl⟩
    · obtain ⟨same, one⟩ := List.append_inj' split rfl
      exact .inl ⟨same.symm, (List.cons.inj one).1.symm, rfl⟩
    · rw [List.concat_eq_append] at split ⊢
      rw [← List.cons_append, ← List.append_assoc] at split
      obtain ⟨same, one⟩ := List.append_inj' split rfl
      rw [(List.cons.inj one).1]
      exact .inr ⟨rest, rfl, same⟩
  · rintro (⟨rfl, rfl, rfl⟩ | ⟨rest, rfl, rfl⟩)
    · rfl
    · simp

theorem stays_append : Stays (calls ++ [call]) observer ↔
    call = .add observer ∨ (Stays calls observer ∧ call ≠ .remove observer) := by
  simp only [Stays, split_last]
  constructor
  · rintro ⟨before, after, ⟨_, added, _⟩ | ⟨rest, rfl, split⟩, kept⟩
    · exact .inl added.symm
    · simp only [List.mem_append, List.mem_singleton, not_or] at kept
      exact .inr ⟨⟨before, rest, split, kept.1⟩, Ne.symm kept.2⟩
  · rintro (added | ⟨⟨before, rest, split, kept⟩, other⟩)
    · exact ⟨calls, [], .inl ⟨rfl, added.symm, rfl⟩, by simp⟩
    · exact ⟨before, rest ++ [call], .inr ⟨rest, rfl, split⟩, by simp [kept, Ne.symm other]⟩

theorem since_append : Since (calls ++ [call]) observer position ↔
    (call = .add observer ∧ ¬Stays calls observer ∧ position = calls.length) ∨
      (Since calls observer position ∧ call ≠ .remove observer) := by
  simp only [Since, split_last]
  constructor
  · rintro ⟨before, after, ⟨rfl, added, _⟩ | ⟨rest, rfl, split⟩, here, kept, fresh⟩
    · exact .inl ⟨added.symm, fresh, here.symm⟩
    · simp only [List.mem_append, List.mem_singleton, not_or] at kept
      exact .inr ⟨⟨before, rest, split, here, kept.1, fresh⟩, Ne.symm kept.2⟩
  · rintro (⟨added, fresh, here⟩ | ⟨⟨before, rest, split, here, kept, fresh⟩, other⟩)
    · exact ⟨calls, [], .inl ⟨rfl, added.symm, rfl⟩, here.symm, by simp, fresh⟩
    · exact ⟨before, rest ++ [call], .inr ⟨rest, rfl, split⟩, here, by simp [kept, Ne.symm other], fresh⟩

theorem Since.lt (since : Since calls observer position) : position < calls.length := by
  obtain ⟨before, after, rfl, rfl, _⟩ := since
  simp

theorem exists_since (calls : List Registration) (observer : Nat) (stays : Stays calls observer) :
    ∃ position, Since calls observer position := by
  induction calls using List.reverseRecOn with
  | nil =>
    obtain ⟨before, after, split, _⟩ := stays
    simp at split
  | append_singleton calls call ih =>
    simp only [since_append]
    by_cases before : Stays calls observer
    · obtain ⟨position, since⟩ := ih before
      rcases stays_append.mp stays with rfl | ⟨_, kept⟩
      · exact ⟨position, .inr ⟨since, by simp⟩⟩
      · exact ⟨position, .inr ⟨since, kept⟩⟩
    · rcases stays_append.mp stays with rfl | ⟨earlier, _⟩
      · exact ⟨calls.length, .inl ⟨rfl, before, rfl⟩⟩
      · exact absurd earlier before

structure Enlisted (calls : List Registration) (observers : List Nat) : Prop where
  registered : ∀ observer, observer ∈ observers ↔ Stays calls observer
  once : observers.Nodup
  ordered : observers.Pairwise fun first second =>
    ∃ earlier later, Since calls first earlier ∧ Since calls second later ∧ earlier < later

end Registration

namespace Compiler

open Registration

def register (compiler : Compiler) : Registration → Compiler
  | .add observer => compiler.addObserver observer
  | .remove observer => compiler.removeObserver observer

def enlist (compiler : Compiler) (calls : List Registration) : Compiler :=
  calls.foldl register compiler

theorem enlist_append (compiler : Compiler) (calls : List Registration) (call : Registration) :
    compiler.enlist (calls ++ [call]) = (compiler.enlist calls).register call := by
  simp [enlist]

theorem enlist_enlisted (options : Options) (calls : List Registration) :
    Enlisted calls (enlist ⟨options, []⟩ calls).observers := by
  induction calls using List.reverseRecOn with
  | nil => exact ⟨by simp [enlist, Stays], by simp [enlist], by simp [enlist]⟩
  | append_singleton calls call ih =>
    rw [enlist_append]
    obtain ⟨registered, once, ordered⟩ := ih
    generalize enlist ⟨options, []⟩ calls = compiler at registered once ordered
    have kept {observers : List Nat} (all : observers.Sublist compiler.observers)
        (unchanged : ∀ observer ∈ observers, call ≠ .remove observer) :
        observers.Pairwise fun first second => ∃ earlier later, Since (calls ++ [call]) first earlier ∧
          Since (calls ++ [call]) second later ∧ earlier < later := by
      refine (ordered.sublist all).imp_of_mem ?_
      rintro first second inside otherInside ⟨earlier, later, since, otherSince, before⟩
      exact ⟨earlier, later, since_append.mpr (.inr ⟨since, unchanged first inside⟩),
        since_append.mpr (.inr ⟨otherSince, unchanged second otherInside⟩), before⟩
    cases call with
    | add added =>
      rw [register, addObserver]
      by_cases present : added ∈ compiler.observers
      · rw [if_pos (List.contains_iff_mem.mpr present)]
        refine ⟨?_, once, kept (List.Sublist.refl _) (by simp)⟩
        intro observer
        rw [registered, stays_append]
        have stays := (registered added).mp present
        grind
      · rw [if_neg (by simpa using present)]
        refine ⟨?_, ?_, ?_⟩
        · intro observer
          rw [stays_append, ← registered]
          simp [eq_comm, or_comm]
        · refine List.nodup_append.mpr ⟨once, by simp, ?_⟩
          intro observer inside other last same
          rw [same, List.mem_singleton.mp last] at inside
          exact present inside
        · -- The new one comes last, at the position of this call.
          refine List.pairwise_append.mpr ⟨kept (List.Sublist.refl _) (by simp), by simp, ?_⟩
          intro first inside second last
          rw [List.mem_singleton.mp last]
          obtain ⟨earlier, since⟩ := exists_since calls first ((registered first).mp inside)
          refine ⟨earlier, calls.length, since_append.mpr (.inr ⟨since, by simp⟩), since_append.mpr (.inl ⟨rfl, ?_, rfl⟩),
            since.lt⟩
          rw [← registered]
          exact present
    | remove removed =>
      rw [register, removeObserver, once.erase_eq_filter]
      refine ⟨?_, once.filter _, kept List.filter_sublist ?_⟩
      · intro observer
        rw [List.mem_filter, stays_append, ← registered]
        simp [@eq_comm _ removed]
      · intro observer inside same
        cases same
        simp at inside

end Compiler

namespace Audience

variable (audience : Audience σ) {emission : Emission}

/-- A delivery of an emission to observers: who is called, and how it ends. One that raises is the last to be called. -/
inductive Delivers (emission : Emission) : List Nat → σ → List Nat → Except Error Unit × σ → Prop
  | done (state : σ) : Delivers emission [] state [] (.ok (), state)
  | next {observer : Nat} {rest called : List Nat} {state after : σ} {ended : Except Error Unit × σ}
      (returns : (audience.react observer emission).outcome state = (.ok (), after))
      (others : Delivers emission rest after called ended) :
      Delivers emission (observer :: rest) state (observer :: called) ended
  | raised {observer : Nat} (rest : List Nat) {state after : σ} {error : Error}
      (raises : (audience.react observer emission).outcome state = (.error error, after)) :
      Delivers emission (observer :: rest) state [observer] (.error error, after)

def traced : Audience (σ × List (Nat × Emission)) where
  registered state := audience.registered state.1
  react observer emission := do
    let (state, calls) ← get
    let (outcome, state) := (audience.react observer emission).outcome state
    set (state, calls ++ [(observer, emission)])
    Step.ofExcept id outcome

theorem outcome_traced (observer : Nat) (emission : Emission) (state : σ) (calls : List (Nat × Emission)) :
    (audience.traced.react observer emission).outcome (state, calls) =
      (((audience.react observer emission).outcome state).1, ((audience.react observer emission).outcome state).2,
        calls ++ [(observer, emission)]) := by
  simp only [traced, Step.outcome_bind, Step.outcome_get]
  rcases (audience.react observer emission).outcome state with ⟨outcome | outcome, after⟩ <;> rfl

theorem traced_forM (observers : List Nat) (state : σ) (calls : List (Nat × Emission)) :
    ∃ called ended, audience.Delivers emission observers state called ended ∧
      Step.outcome (forM observers fun observer => audience.traced.react observer emission) (state, calls) =
        (ended.1, ended.2, calls ++ called.map fun observer => (observer, emission)) := by
  induction observers generalizing state calls with
  | nil => exact ⟨[], _, .done state, by simp⟩
  | cons observer rest ih =>
    have first := audience.outcome_traced observer emission state calls
    rcases reacts : (audience.react observer emission).outcome state with ⟨error | _, after⟩
    · rw [reacts] at first
      refine ⟨[observer], _, .raised rest reacts, ?_⟩
      rw [List.forM_cons, Step.outcome_bind_error first]
      rfl
    · rw [reacts] at first
      obtain ⟨called, ended, delivers, outcome⟩ := ih after (calls ++ [(observer, emission)])
      refine ⟨observer :: called, ended, .next reacts delivers, ?_⟩
      rw [List.forM_cons, Step.outcome_bind_ok first, outcome]
      simp

theorem traced_notify (emission : Emission) (state : σ) (calls : List (Nat × Emission)) :
    ∃ called ended, audience.Delivers emission (audience.registered state) state called ended ∧
      (audience.traced.notify emission).outcome (state, calls) =
        (ended.1, ended.2, calls ++ called.map fun observer => (observer, emission)) :=
  audience.traced_forM (audience.registered state) state calls

theorem notify_agree (emission : Emission) (state : σ) (calls : List (Nat × Emission)) :
    Agree (fun state (twin : σ × List (Nat × Emission)) => twin.1 = state) ((audience.notify emission).outcome state)
      ((audience.traced.notify emission).outcome (state, calls)) := by
  refine Paired.forM (audience.registered state) (fun observer state twin same => ?_) rfl
  obtain ⟨_, calls⟩ := twin
  subst same
  rw [outcome_traced]
  show Agree (fun state (twin : σ × List (Nat × Emission)) => twin.1 = state) _ _
  exact .intro rfl rfl

end Audience

end ShaderGraph
