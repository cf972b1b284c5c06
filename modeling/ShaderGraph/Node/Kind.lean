import ShaderGraph.Shape

namespace ShaderGraph

inductive NodeKind where
  | normal
  | uv
  | position
  | texture
  | extend
  | saturate
  | component
  | vector
  | print
  | preview
deriving DecidableEq, Repr

structure InputSocket where
  name : String
  /-- The shape of the zero that stands for an input without a link. -/
  shape : Shape
  required : Bool
deriving DecidableEq

structure Template where
  title : String
  inputs : List InputSocket
  outputs : List String
  params : List (String × Value)

namespace Template

def input? (template : Template) (socket : String) : Option InputSocket :=
  template.inputs.find? (fun input => input.name == socket)

def hasInput (template : Template) (socket : String) : Bool :=
  (template.input? socket).isSome

def hasOutput (template : Template) (socket : String) : Bool :=
  template.outputs.contains socket

def defaultOutput (template : Template) : Option String :=
  template.outputs.head?

def require (template : Template) (socket : String) : Template :=
  { template with
    inputs := template.inputs.map (fun input =>
      if input.name = socket then { input with required := true } else input) }

end Template

namespace NodeKind

def menu : List NodeKind :=
  [normal, uv, position, texture, extend, saturate, component, vector, print, preview]

def word : NodeKind → String
  | normal => "normal"
  | uv => "uv"
  | position => "position"
  | texture => "texture"
  | extend => "extend"
  | saturate => "saturate"
  | component => "component"
  | vector => "vector"
  | print => "print"
  | preview => "preview"

def label : NodeKind → String
  | normal => "NORMAL"
  | uv => "UV"
  | position => "POSITION"
  | texture => "TEXTURE"
  | extend => "EXTEND"
  | saturate => "SATURATE"
  | component => "COMPONENT"
  | vector => "VECTOR"
  | print => "PRINT"
  | preview => "PREVIEW"

def ofLabel? (label : String) : Option NodeKind :=
  menu.find? (fun kind => kind.label == label)

def title : NodeKind → String
  | normal => "Normal"
  | uv => "UV"
  | position => "Position"
  | texture => "Texture"
  | extend => "Extend"
  | saturate => "Saturate"
  | component => "Component"
  | vector => "Vector"
  | print => "Print"
  | preview => "Preview"

/-- Inputs as shipped: none of them needs a link. -/
def inputs : NodeKind → List InputSocket
  | extend | saturate => [⟨"value", .float, false⟩]
  | component => [⟨"value", .vec4, false⟩]
  | vector => ["x", "y", "z", "w"].map (⟨·, .float, false⟩)
  | print => [⟨"output", .vec4, false⟩]
  | preview => [⟨"input", .vec4, false⟩]
  | normal | uv | position | texture => []

def outputs : NodeKind → List String
  | normal => ["normal", "x", "y", "z"]
  | uv => ["uv", "x", "y"]
  | position => ["position", "x", "y", "z", "w"]
  | texture => ["color", "r", "g", "b", "a"]
  | extend => ["vec"]
  | saturate => ["saturated"]
  | component => ["x", "y", "z", "w"]
  | vector => ["vec"]
  | print => []
  | preview => ["output"]

def params : NodeKind → List (String × Value)
  | extend => [("amount", .number .zero)]
  | _ => []

def template (kind : NodeKind) : Template :=
  ⟨kind.title, kind.inputs, kind.outputs, kind.params⟩

theorem mem_menu (kind : NodeKind) : kind ∈ menu := by cases kind <;> decide

theorem ofLabel?_label (kind : NodeKind) : ofLabel? kind.label = some kind := by
  cases kind <;> decide +kernel

end NodeKind

abbrev Catalog := NodeKind → Template

namespace Catalog

def shipped : Catalog := NodeKind.template

def require (catalog : Catalog) (kind : NodeKind) (socket : String) : Catalog :=
  fun other => if other = kind then (catalog kind).require socket else catalog other

end Catalog

end ShaderGraph
