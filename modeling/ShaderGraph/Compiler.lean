import ShaderGraph.Graph.Edit
import ShaderGraph.Resolution

namespace ShaderGraph

inductive Root where
  | node (node : Node)
  | named (name : String)

def Root.name : Root → String
  | .node n => n.name
  | .named s => s

structure CompileResult where
  root : String
  source : Option String
  failure : Option Failure
  emissions : List Emission
  statementCount : Nat

namespace CompileResult

def isOk (result : CompileResult) : Bool := result.failure.isNone

def failed (root : String) (failure : Failure) : CompileResult := ⟨root, none, some failure, [], 0⟩

end CompileResult

def Graph.rootNode (graph : Graph) : Root → Except Failure Node
  | .named name => match graph.named? name with
    | some node => .ok node
    | none => .error (.noSuchNode name graph.name)
  | .node node => graph.member node

/-- The output that a compile reports: an empty text counts as none. -/
def Node.target (node : Node) : Option String → Option String
  | some socket => if socket = "" then node.kind.template.defaultOutput else some socket
  | none => node.kind.template.defaultOutput

/-- A pass that is nested too deeply fails on behalf of its root. -/
def Error.atRoot (root : String) (target : Option String) : Error → Error
  | .nesting => .failure (.nestedTooDeeply root target)
  | error => error

/-- Put a result under a name: in the place of an earlier one, or at the end. -/
def putResult (results : List (String × CompileResult)) (name : String) (result : CompileResult) :
    List (String × CompileResult) :=
  if results.any (·.1 == name) then
    results.map (fun entry => if entry.1 = name then (name, result) else entry)
  else results ++ [(name, result)]

namespace Scene

variable {σ : Type}

def resolveFresh (scene : Scene σ) (options : Options) (node : Node) (socket : Option String) (world : σ) :
    Except Error Expression × Run σ :=
  (scene.resolve scene.host.limits.nesting node socket).outcome ⟨.fresh options, [], world⟩

def compile (scene : Scene σ) (options : Options) (root : Root) (socket : Option String) :
    Step σ CompileResult := do
  let graph := scene.graph
  let node ← Step.ofExcept Error.failure (graph.rootNode root)
  let target := node.target socket
  scene.host.write LogLevel.info ("Compiling '" ++ graph.name ++ "' from " ++ Waypoint.render (node.name, target))
  let (outcome, run) := scene.resolveFresh options node socket (← get)
  set run.world
  let e ← Step.ofExcept (Error.atRoot node.name target) outcome
  let source ← Step.ofExcept id (Source.render scene.host.limits.digits options e)
  scene.host.write LogLevel.info ("Compiled '" ++ graph.name ++ "': " ++ toString e.statements.length
    ++ " statements, " ++ toString run.pass.emissions.length ++ " emissions")
  return ⟨node.name, some source, none, run.pass.emissions, e.statements.length⟩

def tryCompile (scene : Scene σ) (options : Options) (root : Root) (socket : Option String) :
    Step σ CompileResult := do
  match ← Step.attempt (scene.compile options root socket) with
  | .ok result => return result
  | .error (.failure failure) =>
    scene.host.write LogLevel.warning ("Compilation of '" ++ scene.graph.name ++ "' from " ++ root.name
      ++ " failed: " ++ failure.message)
    return .failed root.name failure
  | .error error => throw error

def warnIfNone (scene : Scene σ) (previews : List Node) : Step σ Unit :=
  if previews.isEmpty then
    scene.host.write LogLevel.warning ("No Preview node found in '" ++ scene.graph.name ++ "'")
  else pure ()

def compilePreviews (scene : Scene σ) (options : Options) : Step σ (List (String × CompileResult)) := do
  let previews := scene.graph.ofKind .preview
  scene.warnIfNone previews
  previews.foldlM (fun results node => do
    return putResult results node.name (← scene.tryCompile options (.node node) none)) []

end Scene

structure Compiler where
  options : Options
  observers : List Nat

namespace Compiler

def addObserver (compiler : Compiler) (observer : Nat) : Compiler :=
  if compiler.observers.contains observer then compiler
  else { compiler with observers := compiler.observers ++ [observer] }

def removeObserver (compiler : Compiler) (observer : Nat) : Compiler :=
  { compiler with observers := compiler.observers.erase observer }

end Compiler

structure Audience (σ : Type) where
  registered : σ → List Nat
  react : Nat → Emission → Step σ Unit

/-- Tell the observers registered at the start, in order, up to the first that raises. -/
def Audience.notify {σ : Type} (audience : Audience σ) (emission : Emission) : Step σ Unit := do
  (audience.registered (← get)).forM (fun observer => audience.react observer emission)

end ShaderGraph
