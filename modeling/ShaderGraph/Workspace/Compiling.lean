import ShaderGraph.Workspace.Editing

namespace ShaderGraph.Workspace

def newObserver (handle : String) (reaction : Reaction) : Working Unit :=
  modify (fun workspace => { workspace with observers := workspace.observers.register handle ⟨handle, reaction⟩ })

def newCompiler (handle : String) (options : Options) : Working Unit :=
  modify (fun workspace => { workspace with compilers := workspace.compilers.register handle ⟨options, []⟩ })

def changeObservers (change : Compiler → Nat → Compiler) (compiler observer : String) : Working Unit := do
  let compiler ← find compilers compiler
  let observer ← find observers observer
  modify (fun workspace => { workspace with
    compilers := workspace.compilers.update compiler (fun compiler => change compiler observer) })

def addObserver : String → String → Working Unit := changeObservers Compiler.addObserver

def removeObserver : String → String → Working Unit := changeObservers Compiler.removeObserver

def logEmission (level : Int) (emission : Emission) (workspace : Workspace) : Workspace :=
  if workspace.logger.isEnabled level then
    workspace.log ⟨level, "Print '" ++ emission.node ++ "':\n" ++ numbered emission.source⟩
  else workspace

/-- What an observer does with an emission. All but those that log are recorded first. -/
def react (number : Nat) (emission : Emission) : Working Unit := do
  match (← get).observers.get? number with
  | none => return
  | some ⟨_, .log level⟩ => modify (logEmission level emission)
  | some ⟨handle, reaction⟩ =>
    modify (recordEvent handle emission)
    match reaction with
    | .fail message => throw (.host message)
    | .failCompilation message => throw (.failure (.raised message emission.node))
    | .attach observer compiler => addObserver compiler observer
    | .detach observer compiler => removeObserver compiler observer
    | .record | .log _ => return

def audience (compiler : Nat) : Audience Workspace where
  registered workspace := ((workspace.compilers.get? compiler).map Compiler.observers).getD []
  react := react

def scene (graph : String) (deliver : Emission → Working Unit) : Working (Scene Workspace) := do
  let graph ← Workspace.graph graph
  let workspace ← get
  return ⟨workspace.catalog, graph, ⟨workspace.limits, Workspace.log, deliver⟩⟩

def compilerScene (graph compiler : String) : Working (Scene Workspace × Options) := do
  let (number, compiler) ← item compilers compiler
  return (← scene graph (audience number).notify, compiler.options)

def compile (graph compiler : String) (root : Root) (socket : Option String) : Working CompileResult := do
  let (scene, options) ← compilerScene graph compiler
  scene.compile options root socket

def tryCompile (graph compiler : String) (root : Root) (socket : Option String) : Working CompileResult := do
  let (scene, options) ← compilerScene graph compiler
  scene.tryCompile options root socket

def compilePreviews (graph compiler : String) : Working (List (String × CompileResult)) := do
  let (scene, options) ← compilerScene graph compiler
  scene.compilePreviews options

def compileShader (graph : String) (options : Options) (root : Root) (socket : Option String) :
    Working (Option String) := do
  let scene ← scene graph (fun _ => return)
  return (← scene.compile options root socket).source

def evaluateNode (graph : String) (node : Node) (socket : Option String) : Working Expression := do
  let scene ← scene graph (fun _ => return)
  let (outcome, run) := scene.resolveFresh .standard node socket (← get)
  set run.world
  Step.ofExcept id outcome

def newEvaluator (handle graph : String) (options : Options) (refusal : Option String) : Working Unit := do
  let graph ← find graphs graph
  modify (fun workspace => { workspace with
    evaluators := workspace.evaluators.register handle ⟨handle, graph, .fresh options, refusal⟩ })

def receive (evaluator : Evaluator) (emission : Emission) : Working Unit := do
  modify (recordEvent evaluator.handle emission)
  match evaluator.refusal with
  | some message => throw (.host message)
  | none => return

def evaluate (evaluator : String) (node : Node) (socket : Option String) : Working Expression := do
  let (number, evaluator) ← item evaluators evaluator
  let workspace ← get
  match workspace.graphs.get? evaluator.graph with
  | none => throw (.unknownHandle evaluator.handle)
  | some graph =>
    let scene : Scene Workspace := ⟨workspace.catalog, graph, ⟨workspace.limits, Workspace.log, receive evaluator⟩⟩
    let (outcome, run) :=
      (scene.resolve workspace.limits.nesting node socket).outcome ⟨evaluator.pass, [], workspace⟩
    set { run.world with
      evaluators := run.world.evaluators.update number (fun evaluator => { evaluator with pass := run.pass }) }
    Step.ofExcept id outcome

def visitState (evaluator : String) (node : Node) (socket : Option String) : Working VisitState := do
  let (_, evaluator) ← item evaluators evaluator
  let socket ← Step.ofExcept Error.failure (node.output socket)
  return evaluator.pass.state ⟨node.id, socket⟩

end ShaderGraph.Workspace
