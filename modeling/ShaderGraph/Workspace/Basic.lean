import ShaderGraph.Compiler
import ShaderGraph.Workspace.Registry

namespace ShaderGraph

inductive Reaction where
  | record
  | fail (message : String)
  | failCompilation (message : String)
  /-- Add an observer to a compiler; both are looked up when this happens. -/
  | attach (observer compiler : String)
  | detach (observer compiler : String)
  | log (level : Int)

structure Observer where
  handle : String
  reaction : Reaction

/-- A pass that stays open for more outputs. Its emissions are recorded, and then refused with a message if there is
    one. -/
structure Evaluator where
  handle : String
  graph : Nat
  pass : Pass
  refusal : Option String

structure Event where
  handle : String
  emission : Emission

structure Workspace where
  limits : Limits
  catalog : Catalog
  graphs : Registry Graph
  nodes : List (String × NodeId)
  detached : List Node
  compilers : Registry Compiler
  observers : Registry Observer
  evaluators : Registry Evaluator
  logger : Logger
  events : List Event
  written : List String

abbrev Working (α : Type) := Step Workspace α

namespace Workspace

def start (limits : Limits) (graph compiler : String) (name : Option String) : Workspace where
  limits := limits
  catalog := .shipped
  graphs := Registry.empty.register graph (.empty 0 (name.getD Graph.standardName))
  nodes := []
  detached := []
  compilers := Registry.empty.register compiler ⟨.standard, []⟩
  observers := .empty
  evaluators := .empty
  logger := .standard
  events := []
  written := []

def clearOutput (workspace : Workspace) : Workspace :=
  { workspace with events := [], written := [] }

def log (record : LogRecord) (workspace : Workspace) : Workspace :=
  match workspace.logger.line? record with
  | some line => { workspace with written := workspace.written ++ [line] }
  | none => workspace

def recordEvent (handle : String) (emission : Emission) (workspace : Workspace) : Workspace :=
  { workspace with events := workspace.events ++ [⟨handle, emission⟩] }

def find {α : Type} (registry : Workspace → Registry α) (handle : String) : Working Nat := do
  match (registry (← get)).number? handle with
  | some number => return number
  | none => throw (.unknownHandle handle)

def item {α : Type} (registry : Workspace → Registry α) (handle : String) : Working (Nat × α) := do
  let workspace ← get
  match (registry workspace).number? handle with
  | some number => match (registry workspace).get? number with
    | some item => return (number, item)
    | none => throw (.unknownHandle handle)
  | none => throw (.unknownHandle handle)

def graph (handle : String) : Working Graph := do
  return (← item graphs handle).2

def node? (workspace : Workspace) (id : NodeId) : Option Node :=
  ((workspace.graphs.get? id.graph).bind (·.find? id)).or (workspace.detached.find? (fun node => node.id == id))

def node (handle : String) : Working Node := do
  let workspace ← get
  match (workspace.nodes.lookup handle).bind workspace.node? with
  | some node => return node
  | none => throw (.unknownHandle handle)

def nameNode (handle : String) (id : NodeId) : Working Unit :=
  modify (fun workspace => { workspace with nodes := (handle, id) :: workspace.nodes })

def modifyNode (id : NodeId) (change : Node → Node) : Working Unit :=
  modify (fun workspace => { workspace with
    graphs := workspace.graphs.update id.graph (·.modify id change)
    detached := workspace.detached.map (fun node => if node.id = id then change node else node) })

def note (level : Int) (message : String) : Working Unit :=
  modify (log ⟨level, message⟩)

end Workspace

end ShaderGraph
