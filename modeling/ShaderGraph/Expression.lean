import ShaderGraph.Code

namespace ShaderGraph

/-- Statements in order, and the result. An empty variable means that nothing is bound; the result is then zero. -/
structure Expression where
  statements : List Value
  shape : Shape
  var : String

inductive MergeError where
  | listStatement

def MergeError.message : MergeError → String
  | .listStatement => "unhashable type: 'list'"

def merge (own other : List Value) : List Value :=
  other.foldl (fun merged statement =>
    if merged.any (·.same statement) then merged else merged ++ [statement]) own

theorem merge_cons (own : List Value) (statement : Value) (other : List Value) :
    merge own (statement :: other) =
      merge (if own.any (·.same statement) then own else own ++ [statement]) other := rfl

namespace Expression

def zero (shape : Shape) : Expression := ⟨[], shape, ""⟩

def isBound (e : Expression) : Bool := e.var != ""

def operand (e : Expression) : Code :=
  if e.var = "" then e.shape.fill .zero else .var e.var

def stem (e : Expression) : String :=
  if e.var = "" then "zero" else e.var

def push (e : Expression) (statement : Value) : Expression :=
  { e with statements := e.statements ++ [statement] }

def bind (e : Expression) (var : String) (shape : Shape) : Expression :=
  { e with var := var, shape := shape }

/-- Take over the statements of another expression. A list among one's own statements stops this at once; a list among
    the others stops it there, with the statements in front of it taken over. -/
def absorb (e other : Expression) : Except MergeError Unit × Expression :=
  if e.statements.any Value.isList then (.error .listStatement, e)
  else
    let usable := other.statements.takeWhile (fun statement => !statement.isList)
    (if other.statements.any Value.isList then .error .listStatement else .ok (),
      { e with statements := merge e.statements usable })

def color (e : Expression) (alpha : Binary64) : Code :=
  .join .vec4 (e.shape.convert .vec3 e.operand .zero) (.literal (.plain alpha))

/-- The result as a value of another shape. Four lanes make a colour, and only then `alpha` is read. -/
def final (e : Expression) (target : Shape) (alpha : Value) : Except ConversionError Code :=
  match target with
  | .vec4 => alpha.toNumber.map e.color
  | target => .ok (e.shape.convert target e.operand .zero)

def same (e other : Expression) : Bool :=
  Value.sameAll e.statements other.statements && e.shape == other.shape && e.var == other.var

def describe (e : Expression) : String :=
  "ExpressionValue(" ++ e.shape.word ++ ", " ++ (if e.var = "" then "<unbound>" else e.var) ++ ", "
    ++ toString e.statements.length ++ " stmts)"

end Expression

end ShaderGraph
