import ShaderGraph.Proofs.Rule
import ShaderGraph.Proofs.Uniting

namespace ShaderGraph

namespace Expression

def holding (e : Expression) (texts : List String) : Expression :=
  { e with statements := texts.map .text }

theorem absorb_holding (e other : Expression) (own others : List String) :
    (e.holding own).absorb (other.holding others) = (.ok (), e.holding (unite own others)) := by
  have plain (e : Expression) (texts : List String) : NodeScope.Plain (e.holding texts) := by
    simp [NodeScope.Plain, holding, Value.isList]
  have merged : merge (own.map Value.text) (others.map Value.text) = (unite own others).map Value.text := by
    apply merge_map
    intro text _ next _
    rw [Value.same_text, beq_iff_eq]
  rw [NodeScope.absorb_plain (plain e own) (plain other others)]
  simp only [NodeScope.joined, holding, merged]

/-- How statements add up. `sum own other` are the statements of an expression that holds `own` after it has taken over
    those of one that holds `other`. -/
structure AbsorbLaws (sum : List String → List String → List String) : Prop where
  absorbs : ∀ (e other : Expression) (own others : List String),
    (e.holding own).absorb (other.holding others) = (.ok (), e.holding (sum own others))
  starts : ∀ own others, own <+: sum own others
  members : ∀ own others text, text ∈ sum own others ↔ text ∈ own ∨ text ∈ others
  takes : ∀ own others, ∃ rest, sum own others = own ++ rest ∧ (∀ text, text ∈ rest ↔ text ∈ others ∧ text ∉ own) ∧
    rest.Pairwise (fun first second => others.idxOf first < others.idxOf second)
  once : ∀ own others, ∀ text ∈ others, text ∉ own → (sum own others).count text = 1
  again : ∀ own others, sum (sum own others) others = sum own others
  back : ∀ own others, sum (sum own others) own = sum own others
  assoc : ∀ first second third, sum (sum first second) third = sum first (sum second third)
  nodup : ∀ own others, own.Nodup → (sum own others).Nodup
  grounded : ∀ (uses : String → String → Prop) (own others : List String), Grounded uses own → Grounded uses others →
    Grounded uses (sum own others)

/-- Statements add up as lists are united. -/
theorem absorb_laws : AbsorbLaws unite where
  absorbs := absorb_holding
  starts := prefix_unite
  members := fun _ _ _ => mem_unite
  takes := unite_eq_append
  once := fun _ _ _ given absent => count_unite given absent
  again := fun _ _ => unite_eq_self fun _ given => mem_unite.mpr (.inr given)
  back := fun _ _ => unite_eq_self fun _ owned => mem_unite.mpr (.inl owned)
  assoc := unite_assoc
  nodup := fun _ _ distinct => nodup_unite distinct
  grounded := fun _ _ _ left right => left.unite right

end Expression

end ShaderGraph
