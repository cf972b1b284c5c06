import ShaderGraph.Shape

namespace ShaderGraph

/-- A numeral in a shader, in the fewest digits or with five places. -/
inductive Literal where
  | plain (x : Binary64)
  | fixed (x : Binary64)
deriving DecidableEq

def Literal.render : Literal → String
  | .plain x => x.plain
  | .fixed x => x.fixed

inductive Code where
  | var (name : String)
  | literal (numeral : Literal)
  | splat (shape : Shape) (numeral : Literal)
  | join (shape : Shape) (first second : Code)
  | compose (x y z w : Code)
  | swizzle (operand : Code) (lanes : String)
  | clamp (operand low high : Code)
  | sample (texture sampler : String)
deriving DecidableEq

namespace Code

def render : Code → String
  | var name => name
  | literal numeral => numeral.render
  | splat shape numeral => shape.typeText ++ "(" ++ numeral.render ++ ")"
  | join shape first second => shape.typeText ++ "(" ++ first.render ++ ", " ++ second.render ++ ")"
  | compose x y z w =>
    "vec4<f32>(" ++ x.render ++ ", " ++ y.render ++ ", " ++ z.render ++ ", " ++ w.render ++ ")"
  | swizzle operand lanes => operand.render ++ "." ++ lanes
  | clamp operand low high => "clamp(" ++ operand.render ++ ", " ++ low.render ++ ", " ++ high.render ++ ")"
  | sample texture sampler => "textureSample(" ++ texture ++ ", " ++ sampler ++ ", uv)"

@[simp] theorem render_var (name : String) : (var name).render = name := rfl

@[simp] theorem render_literal (numeral : Literal) : (literal numeral).render = numeral.render := rfl

@[simp] theorem render_splat (shape : Shape) (numeral : Literal) :
    (splat shape numeral).render = shape.typeText ++ "(" ++ numeral.render ++ ")" := rfl

@[simp] theorem render_join (shape : Shape) (first second : Code) :
    (join shape first second).render = shape.typeText ++ "(" ++ first.render ++ ", " ++ second.render ++ ")" := rfl

@[simp] theorem render_compose (x y z w : Code) :
    (compose x y z w).render =
      "vec4<f32>(" ++ x.render ++ ", " ++ y.render ++ ", " ++ z.render ++ ", " ++ w.render ++ ")" := rfl

@[simp] theorem render_swizzle (operand : Code) (lanes : String) :
    (swizzle operand lanes).render = operand.render ++ "." ++ lanes := rfl

@[simp] theorem render_clamp (operand low high : Code) :
    (clamp operand low high).render =
      "clamp(" ++ operand.render ++ ", " ++ low.render ++ ", " ++ high.render ++ ")" := rfl

@[simp] theorem render_sample (texture sampler : String) :
    (sample texture sampler).render = "textureSample(" ++ texture ++ ", " ++ sampler ++ ", uv)" := rfl

end Code

namespace Shape

def fill (shape : Shape) (x : Binary64) : Code :=
  match shape with
  | float => .literal (.plain x)
  | shape => .splat shape (.fixed x)

def lead : Shape → String
  | float => "x"
  | vec2 => "xy"
  | vec3 => "xyz"
  | vec4 => "xyzw"

def padding (missing : Nat) (x : Binary64) : Code :=
  match missing with
  | 2 => vec2.fill x
  | 3 => vec3.fill x
  | _ => .literal (.fixed x)

/-- A value of one shape as one of another: lanes in front are kept, new lanes hold `pad`. -/
def convert (source target : Shape) (operand : Code) (pad : Binary64) : Code :=
  if source = target then operand
  else if source.lanes < target.lanes then .join target operand (padding (target.lanes - source.lanes) pad)
  else .swizzle operand target.lead

@[simp] theorem convert_self (shape : Shape) (operand : Code) (pad : Binary64) :
    shape.convert shape operand pad = operand := by
  simp [convert]

end Shape

end ShaderGraph
