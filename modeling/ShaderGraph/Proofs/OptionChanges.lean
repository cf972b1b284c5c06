import ShaderGraph.Proofs.IntegerRange
import ShaderGraph.Search

namespace ShaderGraph

theorem OptionField.ofLabel?_eq_some_iff {label : String} {field : OptionField} :
    ofLabel? label = some field ↔ field.label = label := by
  constructor
  · intro found
    simpa using List.find?_some found
  · intro same
    rw [← same]
    exact ofLabel?_label field

structure FieldMap where
  entries : OptionFields
  distinct : (entries.map Prod.fst).Nodup

namespace FieldMap

def get? (fields : FieldMap) (label : String) : Option Value :=
  fields.entries.lookup label

def Known (fields : FieldMap) : Prop :=
  ∀ label, (fields.get? label).isSome → ∃ field : OptionField, field.label = label

/-- The last of the maps that gives a label gives its value. -/
def Merges (merged : FieldMap) (maps : List FieldMap) : Prop :=
  ∀ label, merged.get? label = maps.reverse.findSome? (·.get? label)

def merge (earlier later : FieldMap) : FieldMap where
  entries := earlier.entries.filter (fun entry => (later.get? entry.1).isNone) ++ later.entries
  distinct := by
    rw [List.map_append, List.nodup_append]
    refine ⟨earlier.distinct.sublist (List.filter_sublist.map _), later.distinct, ?_⟩
    intro label kept other given same
    obtain ⟨entry, member, rfl⟩ := List.mem_map.mp kept
    obtain ⟨late, among, rfl⟩ := List.mem_map.mp given
    have absent := List.lookup_eq_none_iff.mp (Option.isNone_iff_eq_none.mp (List.mem_filter.mp member).2)
    simpa [same] using absent late among

theorem get?_merge (earlier later : FieldMap) (label : String) :
    (earlier.merge later).get? label = (later.get? label).or (earlier.get? label) := by
  have kept := lookup_filter earlier.entries (fun label => (later.get? label).isNone) label
  simp only [get?, merge, List.lookup_append] at kept ⊢
  rw [kept]
  rcases Option.eq_none_or_eq_some (later.entries.lookup label) with absent | ⟨value, present⟩
  · simp [absent]
  · simp [present]

theorem merges_foldl (maps : List FieldMap) (first : FieldMap) : (maps.foldl merge first).Merges (first :: maps) := by
  intro label
  induction maps generalizing first with
  | nil => simp
  | cons next rest ih =>
    rw [List.foldl_cons, ih]
    simp only [List.reverse_cons, List.findSome?_append, List.findSome?_cons, List.findSome?_nil, get?_merge]
    cases rest.reverse.findSome? (·.get? label) <;> cases next.get? label <;> cases first.get? label <;> rfl

theorem known_congr {fields other : FieldMap} (same : ∀ label, fields.get? label = other.get? label)
    (known : fields.Known) : other.Known := by
  intro label given
  exact known label (by rwa [same])

theorem Known.merge {earlier later : FieldMap} (before : earlier.Known) (after : later.Known) :
    (earlier.merge later).Known := by
  intro label given
  rw [get?_merge, Option.isSome_or, Bool.or_eq_true] at given
  rcases given with late | early
  · exact after label late
  · exact before label early

theorem strangers_eq_nil_iff (fields : FieldMap) : Options.strangers fields.entries = [] ↔ fields.Known := by
  have given (label : String) : (fields.get? label).isSome ↔ label ∈ fields.entries.map (·.1) := by
    simp only [get?, List.lookup_isSome_iff, beq_iff_eq, List.mem_map]
    constructor
    · intro found
      obtain ⟨entry, member, same⟩ := found
      exact ⟨entry, member, same.symm⟩
    · intro found
      obtain ⟨entry, member, same⟩ := found
      exact ⟨entry, member, same.symm⟩
  simp only [Options.strangers, List.filter_eq_nil_iff, Known, given, Option.isNone_iff_eq_none,
    ← OptionField.ofLabel?_eq_some_iff]
  constructor
  · intro none label member
    exact Option.ne_none_iff_exists'.mp (none label member)
  · intro known label member
    exact Option.ne_none_iff_exists'.mpr (known label member)

end FieldMap

def Value.IsIdentifier (value : Value) : Prop :=
  ∃ name : String, value = .text name ∧ Text.isIdentifier name

namespace Options

def Overrides (options base : Options) (given : FieldMap) : Prop :=
  ∀ field, options.get field = (given.get? field.label).getD (base.get field)

theorem ext_get {options other : Options} (same : ∀ field, options.get field = other.get field) : options = other := by
  obtain ⟨⟩ := options
  obtain ⟨⟩ := other
  simp only [mk.injEq]
  exact ⟨same .bindGroup, same .textureBinding, same .samplerBinding, same .textureName, same .samplerName,
    same .vertexImport, same .alpha, same .indent⟩

theorem override_overrides (options : Options) (given : FieldMap) :
    (options.override given.entries).Overrides options given := by
  obtain ⟨entries, distinct⟩ := given
  intro field
  simp only [FieldMap.get?]
  induction entries generalizing options with
  | nil => rfl
  | cons entry entries ih =>
    obtain ⟨label, value⟩ := entry
    rw [List.map_cons, List.nodup_cons] at distinct
    rw [override, List.foldl_cons, ← override, ih _ distinct.2, List.lookup_cons]
    by_cases here : label = field.label
    · subst here
      have once : entries.lookup field.label = none := by
        rw [List.lookup_eq_none_iff]
        intro later member
        rw [bne_iff_ne]
        intro same
        exact distinct.1 (List.mem_map.mpr ⟨later, member, same.symm⟩)
      simp [once, OptionField.ofLabel?_label, get_set]
    · rw [beq_eq_false_iff_ne.mpr (Ne.symm here)]
      congr 1
      split
      · rename_i other found
        rw [get_set, if_neg]
        intro same
        rw [OptionField.ofLabel?_eq_some_iff, ← same] at found
        exact here found.symm
      · rfl

structure Slotted (options : Options) : Prop where
  group : ∃ n : Nat, options.bindGroup = .int n
  texture : ∃ n : Nat, options.textureBinding = .int n
  sampler : ∃ n : Nat, options.samplerBinding = .int n

structure WellFormed (options : Options) : Prop where
  slotted : options.Slotted
  bindings : options.textureBinding ≠ options.samplerBinding
  alpha : options.alpha.IsFinite
  textureName : options.textureName.IsIdentifier
  samplerName : options.samplerName.IsIdentifier
  names : options.textureName ≠ options.samplerName

theorem slot?_eq_some_iff {value : Value} {n : Nat} : slot? value = some n ↔ value = .int n := by
  constructor
  · intro found
    simp only [slot?] at found
    split at found
    · cases found
      rfl
    · cases found
  · intro same
    rw [same]
    rfl

theorem slot?_isSome_iff {value : Value} : (slot? value).isSome ↔ ∃ n : Nat, value = .int n := by
  simp only [Option.isSome_iff_exists, slot?_eq_some_iff]

theorem name?_eq_some_iff {value : Value} {name : String} :
    name? value = some name ↔ value = .text name ∧ Text.isIdentifier name := by
  cases value with
  | text s =>
    simp only [name?, Option.ite_none_right_eq_some, Option.some.injEq, Value.text.injEq]
    constructor
    · rintro ⟨identifier, rfl⟩
      exact ⟨rfl, identifier⟩
    · rintro ⟨rfl, identifier⟩
      exact ⟨identifier, rfl⟩
  | _ => simp [name?]

theorem name?_isSome_iff {value : Value} : (name? value).isSome ↔ value.IsIdentifier := by
  simp only [Option.isSome_iff_exists, name?_eq_some_iff, Value.IsIdentifier]

theorem valid_iff_wellFormed {options : Options} : options.Valid ↔ options.WellFormed := by
  constructor
  · intro valid
    have slotted : options.Slotted :=
      ⟨slot?_isSome_iff.mp valid.group, slot?_isSome_iff.mp valid.texture, slot?_isSome_iff.mp valid.sampler⟩
    exact ⟨slotted, fun same => valid.bindings (by rw [same]), Value.toFinite_ok_iff.mp valid.alpha,
      name?_isSome_iff.mp valid.textureName, name?_isSome_iff.mp valid.samplerName,
      fun same => valid.names (by rw [same])⟩
  · intro formed
    have bindings : slot? options.textureBinding ≠ slot? options.samplerBinding := by
      obtain ⟨n, texture⟩ := formed.slotted.texture
      rw [slot?_eq_some_iff.mpr texture]
      intro same
      exact formed.bindings (texture.trans (slot?_eq_some_iff.mp same.symm).symm)
    have names : name? options.textureName ≠ name? options.samplerName := by
      obtain ⟨name, texture⟩ := formed.textureName
      rw [name?_eq_some_iff.mpr texture]
      intro same
      exact formed.names (texture.1.trans (name?_eq_some_iff.mp same.symm).1.symm)
    exact ⟨slot?_isSome_iff.mpr formed.slotted.group, slot?_isSome_iff.mpr formed.slotted.texture,
      slot?_isSome_iff.mpr formed.slotted.sampler, bindings, Value.toFinite_ok_iff.mpr formed.alpha,
      name?_isSome_iff.mpr formed.textureName, name?_isSome_iff.mpr formed.samplerName, names⟩

theorem checked_eq_ok_iff {options result : Options} :
    options.checked = .ok result ↔ result = options ∧ options.WellFormed := by
  rw [← valid_iff_wellFormed, ← check_eq_ok_iff, checked, bind_eq_ok_iff]
  constructor
  · intro passed
    obtain ⟨_, passed, same⟩ := passed
    exact ⟨(Except.ok.inj same).symm, passed⟩
  · intro passed
    exact ⟨(), passed.2, by rw [passed.1]; rfl⟩

theorem overrides_iff {options base : Options} {given : FieldMap} :
    options.Overrides base given ↔ options = base.override given.entries := by
  have overrides := override_overrides base given
  constructor
  · intro alike
    exact ext_get fun field => (alike field).trans (overrides field).symm
  · intro same
    rw [same]
    exact overrides

theorem checked_override_iff {base result : Options} {given : FieldMap} :
    (base.override given.entries).checked = .ok result ↔ result.Overrides base given ∧ result.WellFormed := by
  rw [checked_eq_ok_iff, overrides_iff]
  constructor
  · intro accepted
    exact ⟨accepted.1, by rw [accepted.1]; exact accepted.2⟩
  · intro accepted
    exact ⟨accepted.1, by rw [← accepted.1]; exact accepted.2⟩

theorem ofFields_eq_ok_iff {given : FieldMap} {result : Options} :
    ofFields given.entries = .ok result ↔ given.Known ∧ result.Overrides standard given ∧ result.WellFormed := by
  rw [← given.strangers_eq_nil_iff, ← checked_override_iff]
  cases strange : strangers given.entries with
  | nil => simp only [ofFields, strange, true_and]
  | cons label labels => simp [ofFields, strange]

theorem all_ne_ownLabel {fields : OptionFields} (known : strangers fields = []) :
    fields.all (fun entry => entry.1 != ownLabel) = true := by
  have own : OptionField.ofLabel? ownLabel = none := by decide +kernel
  rw [List.all_eq_true]
  intro entry member
  rw [bne_iff_ne]
  intro same
  have found := List.filter_eq_nil_iff.mp known entry.1 (List.mem_map_of_mem member)
  rw [same, own] at found
  exact found rfl

theorem withFields_eq_ok_iff {options result : Options} {given : FieldMap} :
    options.withFields given.entries = .ok result ↔
      given.Known ∧ result.Overrides options given ∧ result.WellFormed := by
  rw [← given.strangers_eq_nil_iff, ← checked_override_iff, withFields, bind_eq_ok_iff]
  cases strange : strangers given.entries with
  | nil => simp only [ensure_eq_ok_iff, all_ne_ownLabel strange, exists_const, true_and]
  | cons label labels => simp

def chain (data : FieldMap) (changes : List FieldMap) : Except OptionError Options := do
  changes.foldlM (fun options change => options.withFields change.entries) (← ofFields data.entries)

theorem Overrides.merge {options next base : Options} {given change : FieldMap} (before : options.Overrides base given)
    (after : next.Overrides options change) : next.Overrides base (given.merge change) := by
  intro field
  rw [after field, before field, FieldMap.get?_merge]
  cases change.get? field.label <;> rfl

theorem changes_merged (changes : List FieldMap) {given : FieldMap} {options result : Options} (known : given.Known)
    (overrides : options.Overrides standard given) (formed : options.WellFormed)
    (changed : changes.foldlM (fun options change => options.withFields change.entries) options = .ok result) :
    (changes.foldl FieldMap.merge given).Known ∧ result.Overrides standard (changes.foldl FieldMap.merge given) ∧
      result.WellFormed := by
  induction changes generalizing given options with
  | nil =>
    cases changed
    exact ⟨known, overrides, formed⟩
  | cons change changes ih =>
    rw [List.foldlM_cons, bind_eq_ok_iff] at changed
    obtain ⟨next, step, rest⟩ := changed
    obtain ⟨alsoKnown, changes, alsoFormed⟩ := withFields_eq_ok_iff.mp step
    exact ih (known.merge alsoKnown) (overrides.merge changes) alsoFormed rest

/-- A step succeeds exactly if only known fields are given and the options with these over the earlier ones are well formed,
    and gives these options. A chain that succeeds gives what its maps merged into one give. -/
theorem chain_overrides (data : FieldMap) (changes : List FieldMap) :
    (∃ merged : Options, merged.Overrides standard data ∧ ∀ result,
      ofFields data.entries = .ok result ↔ result = merged ∧ data.Known ∧ merged.WellFormed) ∧
    (∀ (options : Options) (change : FieldMap), ∃ merged : Options, merged.Overrides options change ∧ ∀ result,
      options.withFields change.entries = .ok result ↔ result = merged ∧ change.Known ∧ merged.WellFormed) ∧
    ∀ result, chain data changes = .ok result → result.WellFormed ∧
      (∃ merged : FieldMap, merged.Merges (data :: changes)) ∧
      ∀ merged : FieldMap, merged.Merges (data :: changes) → ofFields merged.entries = .ok result := by
  have verdict (base result : Options) (given : FieldMap) :
      given.Known ∧ result.Overrides base given ∧ result.WellFormed ↔
        result = base.override given.entries ∧ given.Known ∧ (base.override given.entries).WellFormed := by
    rw [overrides_iff]
    constructor
    · rintro ⟨known, rfl, formed⟩
      exact ⟨rfl, known, formed⟩
    · rintro ⟨rfl, known, formed⟩
      exact ⟨known, rfl, formed⟩
  refine ⟨⟨_, override_overrides standard data, fun result => ?_⟩,
    fun options change => ⟨_, override_overrides options change, fun result => ?_⟩, fun result finished => ?_⟩
  · rw [ofFields_eq_ok_iff, verdict]
  · rw [withFields_eq_ok_iff, verdict]
  · rw [chain, bind_eq_ok_iff] at finished
    obtain ⟨options, started, changed⟩ := finished
    obtain ⟨known, overrides, formed⟩ := ofFields_eq_ok_iff.mp started
    obtain ⟨known, overrides, formed⟩ := changes_merged changes known overrides formed changed
    have merges := FieldMap.merges_foldl changes data
    refine ⟨formed, ⟨_, merges⟩, fun merged alsoMerges => ?_⟩
    have same (label : String) : (changes.foldl FieldMap.merge data).get? label = merged.get? label :=
      (merges label).trans (alsoMerges label).symm
    rw [ofFields_eq_ok_iff]
    refine ⟨FieldMap.known_congr same known, fun field => ?_, formed⟩
    rw [← same, overrides field]

-- The two bindings are exchanged at once. One after the other they would be the same in between.
example :
    (chain ⟨[("texture_binding", .int 2), ("sampler_binding", .int 1)], by decide⟩ []).isOk = true ∧
      (chain ⟨[("texture_binding", .int 2)], by decide⟩ [⟨[("sampler_binding", .int 1)], by decide⟩]).isOk = false := by
  decide +kernel

end Options

end ShaderGraph
