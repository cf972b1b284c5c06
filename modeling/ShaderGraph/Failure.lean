import ShaderGraph.Node.Basic

namespace ShaderGraph

inductive FailureFamily where
  | any
  | graph
  | invalidLink
  | compilation
  | missingRequiredInput
  | unknownOutputSocket
  | cyclicGraph
  | emission
deriving DecidableEq, Repr

namespace FailureFamily

def all : List FailureFamily :=
  [any, graph, invalidLink, compilation, missingRequiredInput, unknownOutputSocket, cyclicGraph, emission]

def label : FailureFamily → String
  | any => "ShaderNodesError"
  | graph => "GraphError"
  | invalidLink => "InvalidLinkError"
  | compilation => "CompilationError"
  | missingRequiredInput => "MissingRequiredInputError"
  | unknownOutputSocket => "UnknownOutputSocketError"
  | cyclicGraph => "CyclicGraphError"
  | emission => "EmissionError"

def ofLabel? (label : String) : Option FailureFamily :=
  all.find? (fun family => family.label == label)

def lineage : FailureFamily → List FailureFamily
  | any => [any]
  | graph => [graph, any]
  | invalidLink => [invalidLink, graph, any]
  | compilation => [compilation, any]
  | missingRequiredInput => [missingRequiredInput, compilation, any]
  | unknownOutputSocket => [unknownOutputSocket, compilation, any]
  | cyclicGraph => [cyclicGraph, compilation, any]
  | emission => [emission, compilation, any]

theorem any_mem_lineage (family : FailureFamily) : any ∈ family.lineage := by
  cases family <;> decide

end FailureFamily

/-- An output on the way of a resolution: the node's name and the socket. -/
abbrev Waypoint := String × Option String

def Waypoint.render (point : Waypoint) : String :=
  match point.2 with
  | some socket => if socket = "" then point.1 else point.1 ++ "." ++ socket
  | none => point.1

inductive Failure where
  | notMember (kind : NodeKind) (node graph : String)
  | noSuchNode (name graph : String)
  | noOutput (node socket : String)
  | noInput (node socket : String)
  | inputTaken (node socket : String)
  | undeclaredOutput (node : String) (kind : NodeKind) (socket : String)
  /-- The node's rule needs to know which output is asked for. -/
  | outputNeeded (node : String)
  | inputMissing (node input : String) (output : Option String)
  | linkRequired (node input : String)
  | cycle (node : String) (socket : Option String) (path : List Waypoint)
  | nestedTooDeeply (node : String) (socket : Option String)
  | statementNotText (statement : Value) (statements : List Value)
  | badReturn (cause : ConversionError) (statements : List Value)
  | raised (message node : String)

namespace Failure

def family : Failure → FailureFamily
  | notMember .. | noSuchNode .. => .graph
  | noInput .. | inputTaken .. => .invalidLink
  | noOutput .. | undeclaredOutput .. | outputNeeded .. => .unknownOutputSocket
  | linkRequired .. => .missingRequiredInput
  | cycle .. => .cyclicGraph
  | statementNotText .. | badReturn .. => .emission
  | inputMissing .. | nestedTooDeeply .. | raised .. => .compilation

def message : Failure → String
  | notMember kind node graph => "Node " ++ Node.describe kind node ++ " does not belong to tree '" ++ graph ++ "'"
  | noSuchNode name graph => "No node named '" ++ name ++ "' in tree '" ++ graph ++ "'"
  | noOutput node socket => "Node '" ++ node ++ "' has no output '" ++ socket ++ "'"
  | noInput node socket => "Node '" ++ node ++ "' has no input '" ++ socket ++ "'"
  | inputTaken node socket => "Input '" ++ socket ++ "' of '" ++ node ++ "' is already linked"
  | undeclaredOutput node kind socket =>
    "Node '" ++ node ++ "' (" ++ kind.word ++ ") has no output '" ++ socket ++ "'"
  | outputNeeded node => "Node '" ++ node ++ "' needs an output socket to be requested"
  | inputMissing node input _ => "Node Error [" ++ node ++ "]: Input '" ++ input ++ "' is not declared"
  | linkRequired node input => "Input '" ++ input ++ "' of '" ++ node ++ "' is required but not connected"
  | cycle node _ path =>
    "Cycle detected at node " ++ node ++ ": " ++ " -> ".intercalate (path.map Waypoint.render)
  | nestedTooDeeply node _ => "Node graph upstream of '" ++ node ++ "' is nested too deeply to compile"
  | statementNotText statement _ => "Statement is not text: " ++ statement.quoted
  | badReturn cause _ => "Cannot render return value: " ++ cause.message
  | raised message _ => message

def node? : Failure → Option String
  | notMember _ node _ | noSuchNode node _ | noOutput node _ | noInput node _ | inputTaken node _
  | undeclaredOutput node .. | outputNeeded node | inputMissing node .. | linkRequired node _ | cycle node ..
  | nestedTooDeeply node _ | raised _ node => some node
  | statementNotText .. | badReturn .. => none

def socket? : Failure → Option String
  | noOutput _ socket | noInput _ socket | inputTaken _ socket | undeclaredOutput _ _ socket
  | linkRequired _ socket => some socket
  | inputMissing _ _ socket | cycle _ socket _ | nestedTooDeeply _ socket => socket
  | notMember .. | noSuchNode .. | outputNeeded _ | statementNotText .. | badReturn .. | raised .. => none

end Failure

def number3 (n : Nat) : String :=
  String.ofList (Decimal.padLeft 3 (Decimal.digitText n))

def numberLines (lines : List String) : List String :=
  (lines.zipIdx 1).map (fun (line, n) => number3 n ++ ": " ++ line)

end ShaderGraph
