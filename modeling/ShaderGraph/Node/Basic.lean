import ShaderGraph.Node.Kind

namespace ShaderGraph

structure NodeId where
  graph : Nat
  serial : Nat
deriving DecidableEq

def NodeId.moved (id : NodeId) (graph : Nat) : NodeId :=
  { id with graph := graph }

abbrev Params := List (String × Value)

structure Node where
  id : NodeId
  kind : NodeKind
  name : String
  params : Params

inductive ParamError where
  | reserved (key : String)
  | notFinite (amount : Value)
  | tooLarge

def ParamError.message (digits : Option Nat) : ParamError → String
  | .reserved key => "ShaderNodeTree.new() got multiple values for argument '" ++ key ++ "'"
  | .notFinite amount => amount.complaint digits ("Extend amount must be a finite number, got " ++ amount.quoted)
  | .tooLarge => ConversionError.tooLarge.message

def ParamError.errorClass : ParamError → ErrorClass
  | .reserved _ => .type
  | .notFinite _ => .value
  | .tooLarge => ConversionError.tooLarge.errorClass

namespace Params

def get? (params : Params) (key : String) : Option Value :=
  params.lookup key

def set (params : Params) (key : String) (value : Value) : Params :=
  if params.any (·.1 == key) then params.map (fun entry => if entry.1 = key then (key, value) else entry)
  else params ++ [(key, value)]

def declared (declared given : Params) : Params :=
  declared.map (fun entry => (entry.1, (given.get? entry.1).getD entry.2))

/-- The arguments that a graph makes a node from: itself, the kind and the name. No parameter goes by their keys. -/
def reserved : List String := ["self", "kind", "name"]

def checkKeys (given : Params) : Except ParamError Unit :=
  match given.find? (fun entry => reserved.contains entry.1) with
  | some entry => .error (.reserved entry.1)
  | none => .ok ()

theorem checkKeys_eq_ok_iff {given : Params} {u : Unit} :
    given.checkKeys = .ok u ↔ ∀ entry ∈ given, entry.1 ∉ reserved := by
  simp only [checkKeys]
  split
  · rename_i entry found
    have member := List.mem_of_find?_eq_some found
    have clash := List.find?_some found
    simp only [reduceCtorEq, false_iff]
    intro free
    exact free entry member (by simpa using clash)
  · rename_i absent
    simpa using absent

end Params

def ParamError.ofFinite (amount : Value) : Value.FiniteError → ParamError
  | .notFinite => .notFinite amount
  | .tooLarge => .tooLarge

namespace NodeKind

/-- The parameters of a new node. Keys that the kind does not declare are dropped, and an amount has to be a finite
    number. -/
def accept (kind : NodeKind) (given : Params) : Except ParamError Params :=
  let merged := Params.declared kind.params given
  match kind with
  | extend =>
    let amount := (merged.get? "amount").getD .null
    match amount.toFinite with
    | .ok x => .ok (merged.set "amount" (.number x))
    | .error e => .error (.ofFinite amount e)
  | _ => .ok merged

end NodeKind

namespace Node

def create (id : NodeId) (kind : NodeKind) (name : String) (given : Params) : Except ParamError Node := do
  return ⟨id, kind, name, ← kind.accept given⟩

def describe (kind : NodeKind) (name : String) : String :=
  "Node(" ++ kind.label ++ ", " ++ Text.quoted name ++ ")"

def amount (node : Node) : Value :=
  (node.params.get? "amount").getD .null

end Node

end ShaderGraph
