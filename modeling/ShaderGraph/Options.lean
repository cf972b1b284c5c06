import ShaderGraph.Outcome
import ShaderGraph.Value
import ShaderGraph.Text.IdentifierClass

namespace ShaderGraph

structure Options where
  bindGroup : Value
  textureBinding : Value
  samplerBinding : Value
  textureName : Value
  samplerName : Value
  vertexImport : Value
  alpha : Value
  indent : Value

inductive OptionField where
  | bindGroup
  | textureBinding
  | samplerBinding
  | textureName
  | samplerName
  | vertexImport
  | alpha
  | indent
deriving DecidableEq, Repr

namespace OptionField

def all : List OptionField :=
  [bindGroup, textureBinding, samplerBinding, textureName, samplerName, vertexImport, alpha, indent]

def label : OptionField → String
  | bindGroup => "bind_group"
  | textureBinding => "texture_binding"
  | samplerBinding => "sampler_binding"
  | textureName => "texture_name"
  | samplerName => "sampler_name"
  | vertexImport => "vertex_import"
  | alpha => "alpha"
  | indent => "indent"

def ofLabel? (label : String) : Option OptionField :=
  all.find? (fun field => field.label == label)

theorem ofLabel?_label (field : OptionField) : ofLabel? field.label = some field := by
  cases field <;> decide +kernel

end OptionField

inductive OptionError where
  | unknown (labels : List String)
  | unexpected (label : String)
  | reserved
  | badSlot (field : OptionField) (value : Value)
  | badAlpha (value : Value)
  | alphaTooLarge
  | sameBinding
  | nameNotText (value : Value)
  | badName (field : OptionField) (name : String)
  | sameName

def Options.ownLabel : String := "self"

def OptionError.message (digits : Option Nat) : OptionError → String
  | .unknown labels => "Unknown compiler options: " ++ ", ".intercalate labels
  | .unexpected label =>
    "CompilerOptions.__init__() got an unexpected keyword argument '" ++ label ++ "'"
  | .reserved => "CompilerOptions.with_changes() got multiple values for argument '" ++ Options.ownLabel ++ "'"
  | .badSlot field value =>
    value.complaint digits (field.label ++ " must be a non-negative integer, got " ++ value.quoted)
  | .badAlpha value => value.complaint digits ("alpha must be a finite number, got " ++ value.quoted)
  | .alphaTooLarge => ConversionError.tooLarge.message
  | .sameBinding => "texture_binding and sampler_binding must differ"
  | .nameNotText value => "'" ++ value.typeName ++ "' object has no attribute 'isidentifier'"
  | .badName field name => field.label ++ " must be a valid identifier, got " ++ Text.quoted name
  | .sameName => "texture_name and sampler_name must differ"

def OptionError.errorClass : OptionError → ErrorClass
  | .unexpected _ | .reserved => .type
  | .alphaTooLarge => ConversionError.tooLarge.errorClass
  | .nameNotText _ => .noMember
  | .unknown _ | .badSlot .. | .badAlpha _ | .sameBinding | .badName .. | .sameName => .value

abbrev OptionFields := List (String × Value)

namespace Options

def standard : Options where
  bindGroup := .int 1
  textureBinding := .int 1
  samplerBinding := .int 2
  textureName := .text "texture"
  samplerName := .text "texture_sampler"
  vertexImport := .text "bevy_pbr::mesh_vertex_output"
  alpha := .number .one
  indent := .text "    "

def get (options : Options) : OptionField → Value
  | .bindGroup => options.bindGroup
  | .textureBinding => options.textureBinding
  | .samplerBinding => options.samplerBinding
  | .textureName => options.textureName
  | .samplerName => options.samplerName
  | .vertexImport => options.vertexImport
  | .alpha => options.alpha
  | .indent => options.indent

def set (options : Options) (field : OptionField) (value : Value) : Options :=
  match field with
  | .bindGroup => { options with bindGroup := value }
  | .textureBinding => { options with textureBinding := value }
  | .samplerBinding => { options with samplerBinding := value }
  | .textureName => { options with textureName := value }
  | .samplerName => { options with samplerName := value }
  | .vertexImport => { options with vertexImport := value }
  | .alpha => { options with alpha := value }
  | .indent => { options with indent := value }

theorem get_set (options : Options) (field other : OptionField) (value : Value) :
    (options.set field value).get other = if other = field then value else options.get other := by
  cases field <;> cases other <;> rfl

def override (options : Options) (fields : OptionFields) : Options :=
  fields.foldl (fun changed entry =>
    match OptionField.ofLabel? entry.1 with
    | some field => changed.set field entry.2
    | none => changed) options

def slot? : Value → Option Nat
  | .int (.ofNat n) => some n
  | _ => none

def name? : Value → Option String
  | .text name => if Text.isIdentifier name then some name else none
  | _ => none

structure Valid (options : Options) : Prop where
  group : (slot? options.bindGroup).isSome
  texture : (slot? options.textureBinding).isSome
  sampler : (slot? options.samplerBinding).isSome
  bindings : slot? options.textureBinding ≠ slot? options.samplerBinding
  alpha : ∃ x, options.alpha.toFinite = .ok x
  textureName : (name? options.textureName).isSome
  samplerName : (name? options.samplerName).isSome
  names : name? options.textureName ≠ name? options.samplerName

def checkSlot (field : OptionField) (value : Value) : Except OptionError Nat :=
  match slot? value with
  | some n => .ok n
  | none => .error (.badSlot field value)

def checkAlpha (alpha : Value) : Except OptionError Unit :=
  match alpha.toFinite with
  | .ok _ => .ok ()
  | .error .notFinite => .error (.badAlpha alpha)
  | .error .tooLarge => .error .alphaTooLarge

def checkName (field : OptionField) (value : Value) : Except OptionError String :=
  match value with
  | .text name => if Text.isIdentifier name then .ok name else .error (.badName field name)
  | value => .error (.nameNotText value)

/-- The checks, in the order in which a fault is reported. -/
def check (options : Options) : Except OptionError Unit := do
  let _ ← checkSlot .bindGroup options.bindGroup
  let texture ← checkSlot .textureBinding options.textureBinding
  let sampler ← checkSlot .samplerBinding options.samplerBinding
  checkAlpha options.alpha
  ensure (texture != sampler) .sameBinding
  let textureName ← checkName .textureName options.textureName
  let samplerName ← checkName .samplerName options.samplerName
  ensure (textureName != samplerName) .sameName

theorem checkSlot_eq_ok_iff {field : OptionField} {value : Value} {n : Nat} :
    checkSlot field value = .ok n ↔ slot? value = some n := by
  simp only [checkSlot]
  split <;> simp_all

theorem checkAlpha_eq_ok_iff {alpha : Value} {u : Unit} :
    checkAlpha alpha = .ok u ↔ ∃ x, alpha.toFinite = .ok x := by
  simp only [checkAlpha]
  split <;> simp_all

theorem checkName_eq_ok_iff {field : OptionField} {value : Value} {name : String} :
    checkName field value = .ok name ↔ name? value = some name := by
  cases value with
  | text s => by_cases h : Text.isIdentifier s <;> simp [checkName, name?, h]
  | _ => simp [checkName, name?]

theorem check_eq_ok_iff {options : Options} : options.check = .ok () ↔ options.Valid := by
  simp only [check, bind_eq_ok_iff, checkSlot_eq_ok_iff, checkAlpha_eq_ok_iff, checkName_eq_ok_iff,
    ensure_eq_ok_iff, bne_iff_ne]
  constructor
  · intro h
    obtain ⟨group, hg, texture, ht, sampler, hs, _, alpha, _, bindings, left, hl, right, hr, names⟩ := h
    exact ⟨by simp [hg], by simp [ht], by simp [hs], by simpa [ht, hs] using bindings, alpha, by simp [hl],
      by simp [hr], by simpa [hl, hr] using names⟩
  · intro valid
    obtain ⟨group, hg⟩ := Option.isSome_iff_exists.mp valid.group
    obtain ⟨texture, ht⟩ := Option.isSome_iff_exists.mp valid.texture
    obtain ⟨sampler, hs⟩ := Option.isSome_iff_exists.mp valid.sampler
    obtain ⟨left, hl⟩ := Option.isSome_iff_exists.mp valid.textureName
    obtain ⟨right, hr⟩ := Option.isSome_iff_exists.mp valid.samplerName
    exact ⟨group, hg, texture, ht, sampler, hs, (), valid.alpha, (), by simpa [ht, hs] using valid.bindings,
      left, hl, right, hr, by simpa [hl, hr] using valid.names⟩

def checked (options : Options) : Except OptionError Options := do
  options.check
  return options

def strangers (fields : OptionFields) : List String :=
  (fields.map (·.1)).filter (fun label => (OptionField.ofLabel? label).isNone)

def ofFields (fields : OptionFields) : Except OptionError Options :=
  match strangers fields with
  | [] => (standard.override fields).checked
  | labels => .error (.unknown (labels.mergeSort (fun a b => decide (a ≤ b))))

/-- Options with some fields changed. Their own label among the changes is refused before any other fault. -/
def withFields (options : Options) (fields : OptionFields) : Except OptionError Options := do
  ensure (fields.all (fun entry => entry.1 != ownLabel)) .reserved
  match strangers fields with
  | [] => (options.override fields).checked
  | label :: _ => .error (.unexpected label)

def same (options other : Options) : Bool :=
  OptionField.all.all (fun field => (options.get field).same (other.get field))

end Options

end ShaderGraph
