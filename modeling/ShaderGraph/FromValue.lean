import ShaderGraph.Error
import ShaderGraph.Identifier

namespace ShaderGraph

def Shape.ofLabel (label : String) : Except Error Shape :=
  match Shape.ofLabel? label with
  | some shape => .ok shape
  | none => .error (.unknownLabel label)

def NodeKind.ofLabel (label : String) : Except Error NodeKind :=
  match NodeKind.ofLabel? label with
  | some kind => .ok kind
  | none => .error (.unknownLabel label)

def FailureFamily.ofLabel (label : String) : Except Error FailureFamily :=
  match FailureFamily.ofLabel? label with
  | some family => .ok family
  | none => .error (.unknownLabel label)

def Shape.ofCount (count : Value) : Except Error Shape :=
  match Shape.ofCount? count with
  | some shape => .ok shape
  | none => .error (.noShape count)

def Shape.fillWith (shape : Shape) (value : Value) : Except Error Code :=
  (value.toNumber.map shape.fill).mapError Error.conversion

/-- Conversion of a variable. The value for new lanes is read even if there are none. -/
def Shape.convertVar (source target : Shape) (var : String) (pad : Value) : Except Error Code :=
  (pad.toPad.map (source.convert target (.var var))).mapError Error.conversion

def Identifier.ofValue : Value → Except Error String
  | .text name => .ok (Identifier.sanitize name)
  | value => .error (.nameNotText value)

end ShaderGraph
