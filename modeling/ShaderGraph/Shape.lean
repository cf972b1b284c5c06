import ShaderGraph.Value

namespace ShaderGraph

inductive Shape where
  | float
  | vec2
  | vec3
  | vec4
deriving DecidableEq, Repr

namespace Shape

def all : List Shape := [float, vec2, vec3, vec4]

def lanes : Shape → Nat
  | float => 1
  | vec2 => 2
  | vec3 => 3
  | vec4 => 4

def word : Shape → String
  | float => "float"
  | vec2 => "vec2"
  | vec3 => "vec3"
  | vec4 => "vec4"

def label : Shape → String
  | float => "FLOAT"
  | vec2 => "VEC2"
  | vec3 => "VEC3"
  | vec4 => "VEC4"

def ofLabel? (label : String) : Option Shape :=
  all.find? (fun shape => shape.label == label)

def ofCount? (count : Value) : Option Shape :=
  all.find? (fun shape => (Value.int shape.lanes).same count)

def typeText : Shape → String
  | float => "f32"
  | vec2 => "vec2<f32>"
  | vec3 => "vec3<f32>"
  | vec4 => "vec4<f32>"

def widen : Shape → Shape
  | float => vec2
  | vec2 => vec3
  | vec3 => vec4
  | vec4 => vec4

theorem lanes_pos (shape : Shape) : 0 < shape.lanes := by cases shape <;> decide

theorem lanes_le_four (shape : Shape) : shape.lanes ≤ 4 := by cases shape <;> decide

theorem lanes_injective {a b : Shape} (h : a.lanes = b.lanes) : a = b := by
  cases a <;> cases b <;> first | rfl | cases h

theorem lanes_widen (shape : Shape) : shape.widen.lanes = min (shape.lanes + 1) 4 := by
  cases shape <;> rfl

theorem ofLabel?_label (shape : Shape) : ofLabel? shape.label = some shape := by
  cases shape <;> decide +kernel

end Shape

end ShaderGraph
