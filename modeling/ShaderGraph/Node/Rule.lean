import ShaderGraph.Error
import ShaderGraph.NameTable

namespace ShaderGraph

abbrev Naming (α : Type) := Step NameTable α

namespace Naming

def declare (name expression : String) : Naming String :=
  modifyGet (fun table => table.declare name expression)

def next (stem : String) : Naming String :=
  modifyGet (fun table => table.next stem)

end Naming

def letStatement (var expression : String) : String :=
  "let " ++ var ++ " = " ++ expression ++ ";"

/-- Name the result of some code; the name may be taken, then another one is issued. -/
def Expression.assign (e : Expression) (name : String) (code : Code) (shape : Shape) : Naming Expression := do
  let var ← Naming.declare name code.render
  return (e.push (.text (letStatement var code.render))).bind var shape

abbrev Inputs := List (String × Expression)

structure NodeScope where
  node : Node
  inputs : Inputs
  output : Option String
  options : Options

namespace NodeScope

def input (scope : NodeScope) (socket : String) : Naming Expression :=
  match scope.inputs.lookup socket with
  | some e => pure e
  | none => throw (.failure (.inputMissing scope.node.name socket scope.output))

def requireOutput (scope : NodeScope) : Naming String :=
  match scope.output with
  | some socket => pure socket
  | none => throw (.failure (.outputNeeded scope.node.name))

def builtin (scope : NodeScope) (whole var : String) (shape : Shape) : Naming Expression := do
  let output ← scope.requireOutput
  let e : Expression := ⟨[], shape, var⟩
  if output = whole then return e
  e.assign (var ++ "_" ++ output) (.swizzle (.var var) output) .float

def texture (scope : NodeScope) : Naming Expression := do
  let output ← scope.requireOutput
  let code := Code.sample scope.options.textureName.display scope.options.samplerName.display
  let sample ← (Expression.zero .float).assign "texture_color" code .vec4
  if output = "color" then return sample
  sample.assign (sample.var ++ "_" ++ output) (.swizzle (.var sample.var) output) .float

def extend (scope : NodeScope) : Naming Expression := do
  let e ← scope.input "value"
  let pad ← Step.ofExcept Error.conversion scope.node.amount.toPad
  let wide := e.shape.widen
  e.assign (e.stem ++ "_extend") (e.shape.convert wide e.operand pad) wide

def saturate (scope : NodeScope) : Naming Expression := do
  let e ← scope.input "value"
  e.assign (e.stem ++ "_saturate") (.clamp e.operand (e.shape.fill .zero) (e.shape.fill .one)) e.shape

def component (scope : NodeScope) : Naming Expression := do
  let lane ← scope.requireOutput
  let e ← scope.input "value"
  e.assign (e.stem ++ "_" ++ lane) (.swizzle (e.shape.convert .vec4 e.operand .zero) lane) .float

def takeLane (scope : NodeScope) (e : Expression) (lane : String) : Naming (Expression × Code) := do
  let scalar ← scope.input lane
  let (outcome, merged) := e.absorb scalar
  Step.ofExcept Error.merge outcome
  return (merged, scalar.shape.convert .float scalar.operand .zero)

def vector (scope : NodeScope) : Naming Expression := do
  let (e, x) ← scope.takeLane (.zero .vec4) "x"
  let (e, y) ← scope.takeLane e "y"
  let (e, z) ← scope.takeLane e "z"
  let (e, w) ← scope.takeLane e "w"
  let name ← Naming.next "vec"
  e.assign name (.compose x y z w) .vec4

/-- The expression of a node's output. Print and Preview pass their input through. -/
def express (scope : NodeScope) : Naming Expression :=
  match scope.node.kind with
  | .normal => scope.builtin "normal" "world_normal" .vec3
  | .uv => scope.builtin "uv" "uv" .vec2
  | .position => scope.builtin "position" "world_position" .vec4
  | .texture => scope.texture
  | .extend => scope.extend
  | .saturate => scope.saturate
  | .component => scope.component
  | .vector => scope.vector
  | .print => scope.input "output"
  | .preview => scope.input "input"

end NodeScope

end ShaderGraph
