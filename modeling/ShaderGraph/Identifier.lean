
namespace ShaderGraph.Identifier

def isNameChar (c : Char) : Bool :=
  c.isAlphanum || c == '_'

def collapse : List Char → List Char
  | [] => []
  | c :: rest => if c = '_' ∧ rest.head? = some '_' then collapse rest else c :: collapse rest

def complete : List Char → List Char
  | [] => ['v']
  | ['_'] => ['v']
  | c :: rest => if c.isDigit then '_' :: c :: rest else c :: rest

def sanitizeChars (name : List Char) : List Char :=
  complete (collapse (name.map (fun c => if isNameChar c then c else '_')))

def sanitize (name : String) : String :=
  String.ofList (sanitizeChars name.toList)

end ShaderGraph.Identifier
