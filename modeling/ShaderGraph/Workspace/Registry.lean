
namespace ShaderGraph

structure Registry (α : Type) where
  items : List α
  handles : List (String × Nat)

namespace Registry

variable {α : Type}

def empty : Registry α := ⟨[], []⟩

def number? (registry : Registry α) (handle : String) : Option Nat :=
  registry.handles.lookup handle

def get? (registry : Registry α) (number : Nat) : Option α :=
  registry.items[number]?

def size (registry : Registry α) : Nat := registry.items.length

def register (registry : Registry α) (handle : String) (item : α) : Registry α :=
  ⟨registry.items ++ [item], (handle, registry.size) :: registry.handles⟩

def update (registry : Registry α) (number : Nat) (change : α → α) : Registry α :=
  { registry with items := registry.items.modify number change }

theorem get?_register (registry : Registry α) (handle : String) (item : α) (number : Nat) :
    (registry.register handle item).get? number = if number = registry.size then some item else registry.get? number := by
  unfold register get? size
  by_cases last : number = registry.items.length
  · simp [last]
  · by_cases before : number < registry.items.length
    · simp [last, List.getElem?_append_left before]
    · have beyond : (registry.items ++ [item]).length ≤ number := by
        rw [List.length_append, List.length_singleton]
        omega
      rw [if_neg last, List.getElem?_eq_none beyond, List.getElem?_eq_none (by omega)]

theorem get?_update (registry : Registry α) (number other : Nat) (change : α → α) :
    (registry.update number change).get? other =
      if other = number then (registry.get? number).map change else registry.get? other := by
  unfold update get?
  by_cases asked : other = number
  · simp [asked]
  · simp [asked, Ne.symm asked]

theorem update_same {registry : Registry α} {number : Nat} {item : α} (found : registry.get? number = some item) :
    registry.update number (fun _ => item) = registry := by
  have same : registry.items.modify number (fun _ => item) = registry.items := by
    apply List.ext_getElem?
    intro other
    rw [List.getElem?_modify]
    by_cases here : number = other
    · rw [← here, show registry.items[number]? = some item from found]
      simp
    · simp [here]
  rw [update, same]

theorem size_register (registry : Registry α) (handle : String) (item : α) :
    (registry.register handle item).size = registry.size + 1 := by
  simp [register, size]

theorem size_update (registry : Registry α) (number : Nat) (change : α → α) :
    (registry.update number change).size = registry.size := by
  simp [update, size]

theorem lt_size_of_get? {registry : Registry α} {number : Nat} {item : α} (found : registry.get? number = some item) :
    number < registry.size :=
  (List.getElem?_eq_some_iff.mp found).1

theorem number?_register (registry : Registry α) (handle : String) (item : α) :
    (registry.register handle item).number? handle = some registry.size := by
  simp [register, number?]

end Registry

end ShaderGraph
