import ShaderGraph.Workspace.Basic

namespace ShaderGraph.Workspace

def newGraph (handle : String) (name : Option String) : Working Graph := do
  let workspace ← get
  let graph := Graph.empty workspace.graphs.size (name.getD Graph.standardName)
  set { workspace with graphs := workspace.graphs.register handle graph }
  return graph

/-- Edit the graph under a handle. What the edit wrote stays, also where it fails. -/
def edit {ε α : Type} (wrap : ε → Error) (handle : String) (editing : Editing ε α) : Working (Graph × α) := do
  let (number, graph) ← item graphs handle
  let (outcome, edited) := editing.outcome graph
  modify (fun workspace => { workspace with graphs := workspace.graphs.update number (fun _ => edited) })
  let result ← Step.ofExcept wrap outcome
  return (edited, result)

def newNode (graph : String) (kind : NodeKind) (name : Option String) (params : Params) : Working Node := do
  return (← edit Error.params graph (.new kind name params)).2

def newNodes (graph : String) (kind : NodeKind) (name : Option String) (params : Params) : Nat → Working (Option Node)
  | 0 => return none
  | count + 1 => do
    let node ← newNode graph kind name params
    return (← newNodes graph kind name params count).or (some node)

def link (graph : String) (source : Node) (output : String) (target : Node) (input : String) : Working String := do
  let (graph, link) ← edit Error.failure graph (.link source output target input)
  let text := graph.describeLink link
  note LogLevel.debug ("Linked " ++ text)
  return text

def linkAll (graph : String) (source : Node) (output : String) (target : Node) (inputs : List String) : Working Unit :=
  inputs.forM (fun input => do
    let _ ← link graph source output target input)

/-- A row of nodes alike, each fed by the one before it; the last one is returned. The first gets its handle as soon as
    it is made, and keeps it if a later link is refused. -/
def chain (graph : String) (kind : NodeKind) (name : Option String) (params : Params) (inputs : List String)
    (output : String) (first : Option String) (before : Option (Node × String)) : Nat → Working (Option Node)
  | 0 => return none
  | count + 1 => do
    let node ← newNode graph kind name params
    if let some handle := first then nameNode handle node.id
    if let some (source, socket) := before then linkAll graph source socket node inputs
    return (← chain graph kind name params inputs output none (some (node, output)) count).or (some node)

def unlink (graph : String) (target : Node) (input : String) : Working (Option String) := do
  let (number, before) ← item graphs graph
  let (after, link) := before.unlink target.id input
  modify (fun workspace => { workspace with graphs := workspace.graphs.update number (fun _ => after) })
  return link.map after.describeLink

def inputLink (graph : String) (target : Node) (input : String) : Working (Option String) := do
  let graph ← Workspace.graph graph
  return (graph.inputLink? target.id input).map graph.describeLink

def remove (graph : String) (node : Node) : Working Graph := do
  let (graph, _) ← edit Error.failure graph (.remove node)
  modify (fun workspace => { workspace with detached := node :: workspace.detached })
  return graph

def copy (graph handle : String) : Working Graph := do
  let workspace ← get
  let copied ← Step.ofExcept id ((← Workspace.graph graph).copy workspace.graphs.size)
  copied.links.forM (fun link => note LogLevel.debug ("Linked " ++ copied.describeLink link))
  modify (fun workspace => { workspace with graphs := workspace.graphs.register handle copied })
  return copied

def setParam (node : Node) (key : String) (value : Value) : Working Unit :=
  modifyNode node.id (fun node => { node with params := node.params.set key value })

def rename (node : Node) (name : String) : Working Unit :=
  modifyNode node.id (fun node => { node with name := name })

def require (kind : NodeKind) (socket : String) : Working Unit :=
  modify (fun workspace => { workspace with catalog := workspace.catalog.require kind socket })

def setupLogger (level : Option Value) : Working Nat := do
  let logger ← Step.ofExcept id (Logger.setup (← get).limits.digits level)
  modify (fun workspace => { workspace with logger := logger })
  return logger.handlerCount

end ShaderGraph.Workspace
