import ShaderGraph.Log
import ShaderGraph.Node.Rule
import ShaderGraph.Pass
import ShaderGraph.Source

namespace ShaderGraph

/-- What a run is confined to: the outputs under resolution at a time, and the digits of an integer that is written, if
    there is a bound. -/
structure Limits where
  nesting : Nat
  digits : Option Nat

def Limits.standard : Limits := ⟨500, some 4300⟩

structure Host (σ : Type) where
  limits : Limits
  log : LogRecord → σ → σ
  deliver : Emission → Step σ Unit

structure Frame where
  node : NodeId
  name : String
  socket : Option String
deriving DecidableEq

def Frame.waypoint (frame : Frame) : Waypoint := (frame.name, frame.socket)

def Frame.key (frame : Frame) : OutputKey := ⟨frame.node, frame.socket⟩

/-- The pass, the outputs being resolved (the last one first), and the state around the pass. -/
structure Run (σ : Type) where
  pass : Pass
  stack : List Frame
  world : σ

namespace Run

variable {σ : Type}

def enter (run : Run σ) (frame : Frame) : Run σ :=
  { run with pass := run.pass.begin frame.key, stack := frame :: run.stack }

def leave (run : Run σ) (frame : Frame) (outcome : Except Error Expression) : Run σ :=
  { run with pass := run.pass.finish frame.key outcome, stack := run.stack.tail }

end Run

abbrev Resolving (σ α : Type) := Step (Run σ) α

namespace Resolving

variable {σ α : Type}

def onPass (change : Pass → Pass) : Resolving σ Unit :=
  modify (fun run => { run with pass := change run.pass })

def naming (action : Naming α) : Resolving σ α := do
  let run ← get
  let (outcome, names) := action.outcome run.pass.names
  set { run with pass := { run.pass with names := names } }
  Step.ofExcept id outcome

def outside (action : Step σ α) : Resolving σ α := do
  let run ← get
  let (outcome, world) := action.outcome run.world
  set { run with world := world }
  Step.ofExcept id outcome

end Resolving

namespace Host

variable {σ : Type}

def write (host : Host σ) (level : Int) (message : String) : Step σ Unit :=
  modify (host.log ⟨level, message⟩)

def emit (host : Host σ) (emission : Emission) : Resolving σ Unit := do
  Resolving.onPass (fun pass => { pass with emissions := pass.emissions ++ [emission] })
  Resolving.outside (host.deliver emission)

def announce (host : Host σ) (node : String) (e : Expression) : Resolving σ Unit := do
  let source ← Step.ofExcept id (Source.render host.limits.digits (← get).pass.options e)
  Resolving.outside (host.write LogLevel.debug
    ("Print '" ++ node ++ "': emitting " ++ toString e.statements.length ++ " statements"))
  host.emit ⟨node, source⟩

def announceFrom (host : Host σ) (node : Node) (e : Expression) : Resolving σ Unit :=
  if node.kind = .print then host.announce node.name e else pure ()

def apply (host : Host σ) (node : Node) (inputs : Inputs) (output : Option String) : Resolving σ Expression := do
  let options := (← get).pass.options
  let e ← Resolving.naming (NodeScope.express ⟨node, inputs, output, options⟩)
  host.announceFrom node e
  return e

end Host

def Host.recorder (limits : Limits) : Host (List Emission) where
  limits := limits
  log _ emissions := emissions
  deliver emission := modify (· ++ [emission])

def Template.withDefaults (template : Template) (given : Inputs) : Inputs :=
  given ++ template.inputs.map (fun input => (input.name, .zero input.shape))

/-- The output that a request means: the first one if none is given; else it has to be declared. -/
def Node.output (node : Node) : Option String → Except Failure (Option String)
  | none => .ok node.kind.template.defaultOutput
  | some socket =>
    if node.kind.template.hasOutput socket then .ok (some socket)
    else .error (.undeclaredOutput node.name node.kind socket)

def outputText (name : String) (socket : Option String) : String :=
  name ++ "." ++ socket.getD "None"

def cyclePath (stack : List Frame) (frame : Frame) : List Waypoint :=
  (stack.reverse.map Frame.waypoint).dropWhile (· != frame.waypoint) ++ [frame.waypoint]

/-- What is wrong where an output is met that is marked as in progress: it lies on a cycle; or the mark was left behind,
    and the output is not being resolved any more. -/
def Frame.met (stack : List Frame) (frame : Frame) : Error :=
  if frame.waypoint ∈ stack.map Frame.waypoint then .failure (.cycle frame.name frame.socket (cyclePath stack frame))
  else .notUnderway frame.waypoint

structure Scene (σ : Type) where
  catalog : Catalog
  graph : Graph
  host : Host σ

namespace Scene

variable {σ : Type}

def note (scene : Scene σ) (level : Int) (message : String) : Resolving σ Unit :=
  Resolving.outside (scene.host.write level message)

def input (scene : Scene σ) (recur : Node → Option String → Resolving σ Expression) (node : Node)
    (socket : InputSocket) : Resolving σ Expression :=
  match scene.graph.inputLink? node.id socket.name with
  | some link =>
    match scene.graph.find? link.source with
    | some source => recur source (some link.output)
    | none => pure (.zero socket.shape)
  | none =>
    if socket.required then throw (.failure (.linkRequired node.name socket.name))
    else pure (.zero socket.shape)

def inputs (scene : Scene σ) (recur : Node → Option String → Resolving σ Expression) (node : Node) :
    Resolving σ Inputs :=
  (scene.catalog node.kind).inputs.mapM (fun socket => do
    return (socket.name, ← scene.input recur node socket))

def work (scene : Scene σ) (recur : Node → Option String → Resolving σ Expression) (node : Node)
    (socket : Option String) : Resolving σ Expression := do
  let inputs ← scene.inputs recur node
  scene.note LogLevel.debug ("Resolving " ++ outputText node.name socket)
  scene.host.apply node inputs socket

def reuse (scene : Scene σ) (frame : Frame) : Resolving σ Expression := do
  scene.note LogLevel.debug ("Memo hit: " ++ outputText frame.name frame.socket)
  match (← get).pass.result? frame.key with
  | some e => return e
  | none => throw (.unknownLabel (frame.socket.getD "None"))

def visit (scene : Scene σ) (recur : Node → Option String → Resolving σ Expression) (node : Node)
    (frame : Frame) : Resolving σ Expression := do
  modify (·.enter frame)
  let outcome ← Step.attempt (scene.work recur node frame.socket)
  modify (·.leave frame outcome)
  Step.ofExcept id outcome

def step (scene : Scene σ) (recur : Node → Option String → Resolving σ Expression) (node : Node)
    (socket : Option String) : Resolving σ Expression := do
  let socket ← Step.ofExcept Error.failure (node.output socket)
  let run ← get
  let frame : Frame := ⟨node.id, node.name, socket⟩
  match run.pass.state frame.key with
  | .resolved => scene.reuse frame
  | .inProgress => throw (frame.met run.stack)
  | .unvisited => scene.visit recur node frame

/-- Resolve an output with at most `depth` outputs being resolved at a time. -/
def resolve (scene : Scene σ) : (depth : Nat) → Node → Option String → Resolving σ Expression
  | 0, _, _ => throw .nesting
  | depth + 1, node, socket => scene.step (scene.resolve depth) node socket

end Scene

end ShaderGraph
