import ShaderGraph.Error

namespace ShaderGraph.Source

def header (options : Options) : List String :=
  let group := options.bindGroup.display
  [ "",
    "@group(" ++ group ++ ") @binding(" ++ options.textureBinding.display ++ ")",
    "var " ++ options.textureName.display ++ ": texture_2d<f32>;",
    "@group(" ++ group ++ ") @binding(" ++ options.samplerBinding.display ++ ")",
    "var " ++ options.samplerName.display ++ ": sampler;",
    "",
    "@fragment",
    "fn fragment(",
    options.indent.display ++ "#import " ++ options.vertexImport.display,
    ") -> @location(0) vec4<f32> \x7b" ]

def shown (options : Options) : List Value :=
  [options.bindGroup, options.textureBinding, options.textureName, options.samplerBinding, options.samplerName,
    options.indent, options.vertexImport]

/-- The statements as lines; each has to be a text. One that is not is quoted in the failure. -/
def body (digits : Option Nat) (indent : String) (all : List Value) : List Value → Except Error (List String)
  | [] => .ok []
  | .text line :: rest => (body digits indent all rest).map (fun lines => (indent ++ line) :: lines)
  | statement :: _ => do
    statement.check digits
    .error (.failure (.statementNotText statement all))

/-- The colour returned. Options may carry an alpha that is no number. -/
def result (options : Options) (e : Expression) : Except Error Code :=
  match e.final .vec4 options.alpha with
  | .ok code => .ok code
  | .error .tooLarge => .error (.conversion .tooLarge)
  | .error cause => .error (.failure (.badReturn cause e.statements))

def lines (digits : Option Nat) (options : Options) (e : Expression) : Except Error (List String) := do
  Value.checkAll digits (shown options)
  let indent := options.indent.display
  let statements ← body digits indent e.statements e.statements
  let code ← result options e
  return header options ++ statements ++ [indent ++ "return " ++ code.render ++ ";", "\x7d", ""]

def render (digits : Option Nat) (options : Options) (e : Expression) : Except Error String :=
  (lines digits options e).map "\n".intercalate

def report (digits : Option Nat) (message : String) (statements : List Value) : Except Error String := do
  Value.checkAll digits statements
  if statements.isEmpty then return message
  return "\n".intercalate
    (["EmissionError: " ++ message, "--- STATEMENTS ---"] ++ numberLines (statements.map Value.display)
      ++ ["------------------"])

theorem header_length (options : Options) : (header options).length = 10 := rfl

end ShaderGraph.Source
