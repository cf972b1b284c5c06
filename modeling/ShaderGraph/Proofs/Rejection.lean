import ShaderGraph.Proofs.OptionChanges

namespace ShaderGraph

variable {ε α β : Type}

def refusal? (classOf : ε → ErrorClass) : Except ε α → Option ErrorClass
  | .ok _ => none
  | .error e => some (classOf e)

theorem refusal?_eq_none_iff {classOf : ε → ErrorClass} {outcome : Except ε α} :
    refusal? classOf outcome = none ↔ ∃ result, outcome = .ok result := by
  cases outcome <;> simp [refusal?]

theorem refusal?_eq_some_iff {classOf : ε → ErrorClass} {outcome : Except ε α} {c : ErrorClass} :
    refusal? classOf outcome = some c ↔ ∃ e, outcome = .error e ∧ classOf e = c := by
  cases outcome <;> simp [refusal?]

theorem refusal?_bind {classOf : ε → ErrorClass} {outcome : Except ε α} {next : α → Except ε β}
    (accepts : ∀ a, ∃ b, next a = .ok b) : refusal? classOf (outcome >>= next) = refusal? classOf outcome := by
  cases outcome with
  | error e => rfl
  | ok a =>
    obtain ⟨b, accepted⟩ := accepts a
    exact congrArg (refusal? classOf) accepted

def Value.IsText (value : Value) : Prop :=
  ∃ s : String, value = .text s

namespace Options

structure Overflows (options : Options) : Prop where
  slotted : options.Slotted
  huge : options.alpha.IsHuge

structure Unnamed (options : Options) : Prop where
  slotted : options.Slotted
  finite : options.alpha.IsFinite
  bindings : options.textureBinding ≠ options.samplerBinding
  names : ¬ options.textureName.IsText ∨ options.textureName.IsIdentifier ∧ ¬ options.samplerName.IsText

theorem checkSlot_refused {field : OptionField} {value : Value} {e : OptionError}
    (refused : checkSlot field value = .error e) : e.errorClass = .value := by
  unfold checkSlot at refused
  split at refused
  · cases refused
  · cases refused
    rfl

theorem checkAlpha_refused {alpha : Value} {e : OptionError} (refused : checkAlpha alpha = .error e) :
    e.errorClass = .value ∨ e.errorClass = .overflow ∧ alpha.IsHuge := by
  unfold checkAlpha at refused
  split at refused
  · cases refused
  · cases refused
    exact .inl rfl
  · rename_i huge
    cases refused
    exact .inr ⟨rfl, Value.toFinite_tooLarge_iff.mp huge⟩

theorem checkName_refused {field : OptionField} {value : Value} {e : OptionError}
    (refused : checkName field value = .error e) :
    e.errorClass = .value ∨ e.errorClass = .noMember ∧ ¬ value.IsText := by
  unfold checkName at refused
  split at refused
  · split at refused
    · cases refused
    · cases refused
      exact .inl rfl
  · rename_i other
    cases refused
    refine .inr ⟨rfl, ?_⟩
    intro text
    obtain ⟨s, same⟩ := text
    exact other s same

theorem checkName_of_not_text {field : OptionField} {value : Value} (other : ¬ value.IsText) :
    checkName field value = .error (.nameNotText value) := by
  cases value with
  | text s => exact absurd ⟨s, rfl⟩ other
  | _ => rfl

/-- The checks in their order: those passed before a fault say what is known of it. -/
theorem check_refused {options : Options} {e : OptionError} (refused : options.check = .error e) :
    e.errorClass = .value ∨ e.errorClass = .overflow ∧ options.Overflows ∨
      e.errorClass = .noMember ∧ options.Unnamed := by
  have slot {field : OptionField} {value : Value} {n : Nat} (accepted : checkSlot field value = .ok n) :
      value = .int n := slot?_eq_some_iff.mp (checkSlot_eq_ok_iff.mp accepted)
  unfold check at refused
  rcases bind_eq_error_iff.mp refused with bad | ⟨group, groupOk, refused⟩
  · exact .inl (checkSlot_refused bad)
  rcases bind_eq_error_iff.mp refused with bad | ⟨texture, textureOk, refused⟩
  · exact .inl (checkSlot_refused bad)
  rcases bind_eq_error_iff.mp refused with bad | ⟨sampler, samplerOk, refused⟩
  · exact .inl (checkSlot_refused bad)
  have slotted : options.Slotted := ⟨⟨group, slot groupOk⟩, ⟨texture, slot textureOk⟩, ⟨sampler, slot samplerOk⟩⟩
  rcases bind_eq_error_iff.mp refused with bad | ⟨_, alphaOk, refused⟩
  · rcases checkAlpha_refused bad with plain | ⟨overflow, huge⟩
    · exact .inl plain
    · exact .inr (.inl ⟨overflow, slotted, huge⟩)
  have finite := Value.toFinite_ok_iff.mp (checkAlpha_eq_ok_iff.mp alphaOk)
  rcases bind_eq_error_iff.mp refused with bad | ⟨_, apart, refused⟩
  · rw [← (ensure_eq_error_iff.mp bad).2]
    exact .inl rfl
  have different : options.textureBinding ≠ options.samplerBinding := by
    rw [slot textureOk, slot samplerOk]
    intro same
    exact bne_iff_ne.mp (ensure_eq_ok_iff.mp apart) (Int.ofNat_inj.mp (Value.int.inj same))
  rcases bind_eq_error_iff.mp refused with bad | ⟨name, nameOk, refused⟩
  · rcases checkName_refused bad with plain | ⟨noMember, other⟩
    · exact .inl plain
    · exact .inr (.inr ⟨noMember, slotted, finite, different, .inl other⟩)
  have named := name?_eq_some_iff.mp (checkName_eq_ok_iff.mp nameOk)
  rcases bind_eq_error_iff.mp refused with bad | ⟨_, _, refused⟩
  · rcases checkName_refused bad with plain | ⟨noMember, other⟩
    · exact .inl plain
    · exact .inr (.inr ⟨noMember, slotted, finite, different, .inr ⟨⟨name, named⟩, other⟩⟩)
  rw [← (ensure_eq_error_iff.mp refused).2]
  exact .inl rfl

theorem Overflows.check_eq {options : Options} (overflows : options.Overflows) :
    options.check = .error .alphaTooLarge := by
  obtain ⟨⟨⟨group, hg⟩, ⟨texture, ht⟩, ⟨sampler, hs⟩⟩, huge⟩ := overflows
  simp [check, hg, ht, hs, checkSlot, slot?, checkAlpha, Value.toFinite_tooLarge_iff.mpr huge, bind, Except.bind]

theorem Unnamed.check_eq {options : Options} (unnamed : options.Unnamed) :
    ∃ value, options.check = .error (.nameNotText value) := by
  obtain ⟨⟨⟨group, hg⟩, ⟨texture, ht⟩, ⟨sampler, hs⟩⟩, finite, different, names⟩ := unnamed
  have alpha : checkAlpha options.alpha = .ok () := checkAlpha_eq_ok_iff.mpr (Value.toFinite_ok_iff.mpr finite)
  have apart : texture ≠ sampler := by
    intro same
    rw [ht, hs, same] at different
    exact different rfl
  rcases names with other | ⟨⟨name, text, identifier⟩, other⟩
  · refine ⟨options.textureName, ?_⟩
    simp [check, hg, ht, hs, alpha, checkSlot, slot?, ensure, apart, checkName_of_not_text other, bind, Except.bind]
  · have named : checkName .textureName options.textureName = .ok name :=
      checkName_eq_ok_iff.mpr (name?_eq_some_iff.mpr ⟨text, identifier⟩)
    refine ⟨options.samplerName, ?_⟩
    simp [check, hg, ht, hs, alpha, checkSlot, slot?, ensure, apart, named, checkName_of_not_text other, bind,
      Except.bind]

theorem ofFields_refused {given : FieldMap} {e : OptionError} (refused : ofFields given.entries = .error e) :
    e.errorClass = .value ∨ given.Known ∧ (e.errorClass = .overflow ∧ (standard.override given.entries).Overflows ∨
      e.errorClass = .noMember ∧ (standard.override given.entries).Unnamed) := by
  rw [← given.strangers_eq_nil_iff]
  cases strange : strangers given.entries with
  | nil =>
    simp only [ofFields, strange, checked, bind_eq_error_iff] at refused
    rcases refused with refused | ⟨_, _, passed⟩
    · rcases check_refused refused with value | other
      · exact .inl value
      · exact .inr ⟨rfl, other⟩
    · cases passed
  | cons label labels =>
    simp only [ofFields, strange] at refused
    cases refused
    exact .inl rfl

theorem ofFields_of_check {given : FieldMap} {e : OptionError} (known : given.Known)
    (refused : (standard.override given.entries).check = .error e) : ofFields given.entries = .error e := by
  rw [← given.strangers_eq_nil_iff] at known
  simp only [ofFields, known, checked, bind_eq_error_iff]
  exact .inl refused

theorem ofFields_overflow_iff {given : FieldMap} :
    refusal? OptionError.errorClass (ofFields given.entries) = some .overflow ↔
      given.Known ∧ (standard.override given.entries).Overflows := by
  rw [refusal?_eq_some_iff]
  constructor
  · intro overflow
    obtain ⟨e, refused, overflow⟩ := overflow
    rcases ofFields_refused refused with value | ⟨known, ⟨_, overflows⟩ | ⟨noMember, _⟩⟩
    · rw [value] at overflow
      cases overflow
    · exact ⟨known, overflows⟩
    · rw [noMember] at overflow
      cases overflow
  · intro overflows
    exact ⟨_, ofFields_of_check overflows.1 overflows.2.check_eq, rfl⟩

theorem ofFields_noMember_iff {given : FieldMap} :
    refusal? OptionError.errorClass (ofFields given.entries) = some .noMember ↔
      given.Known ∧ (standard.override given.entries).Unnamed := by
  rw [refusal?_eq_some_iff]
  constructor
  · intro noMember
    obtain ⟨e, refused, noMember⟩ := noMember
    rcases ofFields_refused refused with value | ⟨known, ⟨overflow, _⟩ | ⟨_, unnamed⟩⟩
    · rw [value] at noMember
      cases noMember
    · rw [overflow] at noMember
      cases noMember
    · exact ⟨known, unnamed⟩
  · intro unnamed
    obtain ⟨value, refused⟩ := unnamed.2.check_eq
    exact ⟨_, ofFields_of_check unnamed.1 refused, rfl⟩

end Options

theorem Node.create_refusal (id : NodeId) (name : String) (amount : Value) (others : Params) :
    refusal? ParamError.errorClass (create id .extend name (("amount", amount) :: others)) =
      refusal? (fun e => (ParamError.ofFinite amount e).errorClass) amount.toFinite := by
  have merged : (Params.declared NodeKind.extend.params (("amount", amount) :: others)).get? "amount" = some amount := rfl
  rw [create]
  refine (refusal?_bind fun params => ⟨_, rfl⟩).trans ?_
  simp only [NodeKind.accept, merged, Option.getD_some]
  cases amount.toFinite <;> rfl

theorem Graph.new_refusal (graph : Graph) (name : Option String) (amount : Value) :
    refusal? ParamError.errorClass (graph.new .extend name [("amount", amount)]) =
      refusal? (fun e => (ParamError.ofFinite amount e).errorClass) amount.toFinite := by
  have keys : Params.checkKeys [("amount", amount)] = .ok () := rfl
  rw [new_eq, keys]
  exact (refusal?_bind fun node => ⟨_, rfl⟩).trans (Node.create_refusal _ _ amount [])

/-- An error is of the class `value`, but if the first fault of the options is an integer beyond the range or a name that is
    no text, and if the amount is an integer beyond the range. Lists are taken to be nested no deeper than values can be
    walked: to quote a deeper one in the message would fail before the error is raised. -/
theorem rejection_classes (data : FieldMap) (amount : Value) :
    (∃ merged : Options, merged.Overrides .standard data ∧
      let refused := refusal? OptionError.errorClass (Options.ofFields data.entries)
      (refused = none ↔ data.Known ∧ merged.WellFormed) ∧
      (refused = some .overflow ↔ data.Known ∧ merged.Overflows) ∧
      (refused = some .noMember ↔ data.Known ∧ merged.Unnamed) ∧
      ∀ c, refused = some c → c = .value ∨ c = .overflow ∨ c = .noMember) ∧
    ∀ (id : NodeId) (name : String) (others : Params),
      let refused := refusal? ParamError.errorClass (Node.create id .extend name (("amount", amount) :: others))
      (refused = none ↔ amount.IsFinite) ∧ (refused = some .overflow ↔ amount.IsHuge) ∧
        (∀ c, refused = some c → c = .value ∨ c = .overflow) ∧
        ∀ (graph : Graph) (title : Option String),
          refusal? ParamError.errorClass (graph.new .extend title [("amount", amount)]) = refused := by
  refine ⟨⟨_, Options.override_overrides .standard data, ?_, ?_, ?_, ?_⟩, fun id name others => ⟨?_, ?_, ?_, ?_⟩⟩
  · rw [refusal?_eq_none_iff]
    constructor
    · intro accepted
      obtain ⟨result, accepted⟩ := accepted
      obtain ⟨known, overrides, formed⟩ := Options.ofFields_eq_ok_iff.mp accepted
      rw [Options.overrides_iff.mp overrides] at formed
      exact ⟨known, formed⟩
    · intro formed
      exact ⟨_, Options.ofFields_eq_ok_iff.mpr ⟨formed.1, Options.override_overrides .standard data, formed.2⟩⟩
  · exact Options.ofFields_overflow_iff
  · exact Options.ofFields_noMember_iff
  · intro c refused
    obtain ⟨e, refused, same⟩ := refusal?_eq_some_iff.mp refused
    rw [← same]
    rcases Options.ofFields_refused refused with value | ⟨_, ⟨overflow, _⟩ | ⟨noMember, _⟩⟩
    · exact .inl value
    · exact .inr (.inl overflow)
    · exact .inr (.inr noMember)
  · rw [Node.create_refusal, refusal?_eq_none_iff, Value.toFinite_ok_iff]
  · rw [Node.create_refusal, refusal?_eq_some_iff, ← Value.toFinite_tooLarge_iff]
    constructor
    · rintro ⟨e, refused, overflow⟩
      cases e with
      | notFinite => cases overflow
      | tooLarge => exact refused
    · intro huge
      exact ⟨_, huge, rfl⟩
  · intro c refused
    rw [Node.create_refusal] at refused
    obtain ⟨e, _, same⟩ := refusal?_eq_some_iff.mp refused
    rw [← same]
    cases e with
    | notFinite => exact .inl rfl
    | tooLarge => exact .inr rfl
  · intro graph title
    rw [Node.create_refusal, Graph.new_refusal]

/-- A number as a name, and an integer beyond the range as the alpha and as an amount. -/
theorem rejection_classes_stray :
    let huge : Value := .int (Nat.pow 10 400)
    refusal? OptionError.errorClass (Options.ofFields [("texture_name", .int 5)]) = some .noMember ∧
      refusal? OptionError.errorClass (Options.ofFields [("alpha", huge)]) = some .overflow ∧
      refusal? ParamError.errorClass ((Graph.empty 0 "tree").new .extend none [("amount", huge)]) = some .overflow := by
  decide +kernel

end ShaderGraph
