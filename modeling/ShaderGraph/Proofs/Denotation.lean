import ShaderGraph.Options
import ShaderGraph.Proofs.Graph.Upstream
import ShaderGraph.Proofs.Shading.Term

namespace ShaderGraph

namespace Shading

variable {α : Type}

def laneNumber? (output : String) : Option Nat :=
  ["x", "y", "z", "w"].idxOf? output <|> ["r", "g", "b", "a"].idxOf? output

def pick (lanes : List α) (output : String) : Option (List α) := do
  let i ← laneNumber? output
  let x ← lanes[i]?
  return [x]

def part (whole : String) (lanes : List α) (output : String) : Option (List α) :=
  if output = whole then some lanes else pick lanes output

def padded [Zero α] (width : Nat) (lanes : List α) : List α :=
  lanes ++ .replicate (width - lanes.length) 0

variable [Zero α] [One α]

def Interpretation.color (reading : Interpretation α) (options : Options) : List α :=
  .ofFn (reading.sample options.textureName.display options.samplerName.display (reading.uv 0) (reading.uv 1))

def Interpretation.rule? (reading : Interpretation α) (options : Options) (node : Node) (output : Option String)
    (input : String → List α) : Option (List α) :=
  match node.kind with
  | .normal => output.bind (part "normal" (.ofFn reading.normal))
  | .uv => output.bind (part "uv" (.ofFn reading.uv))
  | .position => output.bind (part "position" (.ofFn reading.position))
  | .texture => output.bind (part "color" (reading.color options))
  | .extend => match node.amount with
    | .number x => some (if (input "value").length = 4 then input "value" else input "value" ++ [reading.numeral x.fixed])
    | _ => none
  | .saturate => some ((input "value").map (reading.clamp · 0 1))
  | .component => output.bind (pick (padded 4 (input "value")))
  | .vector => some (["x", "y", "z", "w"].map (fun lane => (input lane).headD 0))
  | .print => some (input "output")
  | .preview => some (input "input")

theorem Interpretation.rule?_congr (reading : Interpretation α) (options : Options) (node : Node)
    (output : Option String) {input other : String → List α}
    (same : ∀ socket ∈ node.kind.inputs, input socket.name = other socket.name) :
    reading.rule? options node output input = reading.rule? options node output other := by
  cases kind : node.kind <;> simp_all [rule?, NodeKind.inputs]

end Shading

open Shading

namespace Graph

variable {α : Type} [Zero α] [One α]

/-- The lanes of an output: what the node makes of the lanes of the outputs linked to its inputs, with zeros at inputs
    without a link. -/
inductive Denotes (graph : Graph) (reading : Interpretation α) (options : Options) :
    NodeId → Option String → List α → Prop
  | output {node : Node} {output : Option String} {input : String → List α} {lanes : List α}
      (inside : node ∈ graph.nodes)
      (linked : ∀ socket ∈ node.kind.inputs, ∀ link, graph.inputLink? node.id socket.name = some link →
        graph.Denotes reading options link.source (some link.output) (input socket.name))
      (unlinked : ∀ socket ∈ node.kind.inputs, graph.inputLink? node.id socket.name = none →
        input socket.name = .replicate socket.shape.lanes 0)
      (rule : reading.rule? options node output input = some lanes) :
      graph.Denotes reading options node.id output lanes

theorem Denotes.unique {graph : Graph} (sound : graph.Sound) {reading : Interpretation α} {options : Options}
    {id : NodeId} {output : Option String} {lanes : List α} (denotes : graph.Denotes reading options id output lanes) :
    ∀ {other : List α}, graph.Denotes reading options id output other → other = lanes := by
  induction denotes with
  | @output node output input lanes inside linked unlinked rule ih =>
    intro other also
    generalize same : node.id = id at also
    cases also with
    | @output second _ otherInput _ otherInside otherLinked otherUnlinked otherRule =>
      have one : node = second := List.inj_on_of_nodup_map sound.distinct inside otherInside same
      subst one
      have agree : ∀ socket ∈ node.kind.inputs, otherInput socket.name = input socket.name := by
        intro socket declared
        cases joined : graph.inputLink? node.id socket.name with
        | none => rw [unlinked socket declared joined, otherUnlinked socket declared joined]
        | some link => exact ih socket declared link joined (otherLinked socket declared link joined)
      rw [reading.rule?_congr options node output agree, rule] at otherRule
      cases otherRule
      rfl

end Graph

end ShaderGraph
