import ShaderGraph.Failure
import ShaderGraph.Search
import Std.Data.HashSet.Lemmas

namespace ShaderGraph

structure Link where
  source : NodeId
  output : String
  target : NodeId
  input : String
deriving DecidableEq

def Link.moved (link : Link) (graph : Nat) : Link :=
  { link with source := link.source.moved graph, target := link.target.moved graph }

/-- Nodes and links in the order in which they were added. Nodes are numbered by `issued`, and a number is never used
    again. -/
structure Graph where
  key : Nat
  name : String
  nodes : List Node
  links : List Link
  issued : Nat

namespace Graph

def standardName : String := "ShaderTree"

def empty (key : Nat) (name : String) : Graph := ⟨key, name, [], [], 0⟩

def find? (graph : Graph) (id : NodeId) : Option Node :=
  graph.nodes.find? (fun node => node.id == id)

def named? (graph : Graph) (name : String) : Option Node :=
  graph.nodes.find? (fun node => node.name == name)

def ofKind (graph : Graph) (kind : NodeKind) : List Node :=
  graph.nodes.filter (fun node => node.kind == kind)

def inputLink? (graph : Graph) (target : NodeId) (input : String) : Option Link :=
  graph.links.find? (fun link => link.target == target && link.input == input)

def nameOf (graph : Graph) (id : NodeId) : String :=
  ((graph.find? id).map Node.name).getD ""

def describeLink (graph : Graph) (link : Link) : String :=
  "Link(" ++ graph.nameOf link.source ++ "." ++ link.output ++ " -> " ++ graph.nameOf link.target ++ "." ++ link.input
    ++ ")"

def describe (graph : Graph) : String :=
  "ShaderNodeTree(" ++ Text.quoted graph.name ++ ", " ++ toString graph.nodes.length ++ " nodes, "
    ++ toString graph.links.length ++ " links)"

def numberedName (base : String) (n : Nat) : String :=
  base ++ "." ++ number3 n

/-- A name that no node has: the base, or the base with the least number from 1 on. The search ends: as many numbers
    are tried as there are nodes. -/
def uniqueName (graph : Graph) (base : String) : String :=
  let taken := Std.HashSet.ofList (graph.nodes.map Node.name)
  if taken.contains base then
    numberedName base
      (searchFrom (fun n => !taken.contains (numberedName base n)) 1 graph.nodes.length)
  else base

end Graph

end ShaderGraph
