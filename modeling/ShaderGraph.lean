import ShaderGraph.Text.Quoted
import ShaderGraph.Text.IdentifierClass
import ShaderGraph.Number.Decimal
import ShaderGraph.Number.Numeral
import ShaderGraph.Value
import ShaderGraph.Shape
import ShaderGraph.Code
import ShaderGraph.Identifier
import ShaderGraph.Expression
import ShaderGraph.Node.Kind
import ShaderGraph.Node.Basic
import ShaderGraph.Options
import ShaderGraph.Failure
import ShaderGraph.Error
import ShaderGraph.NameTable
import ShaderGraph.FromValue
import ShaderGraph.Source
import ShaderGraph.Graph.Edit
import ShaderGraph.Node.Rule
import ShaderGraph.Log
import ShaderGraph.Pass
import ShaderGraph.Resolution
import ShaderGraph.Compiler
import ShaderGraph.Workspace.Compiling
import ShaderGraph.Proofs.SingleAssignment
import ShaderGraph.Proofs.CompileOutcome
import ShaderGraph.Proofs.CompilerCorrectness
import ShaderGraph.Proofs.Cone
import ShaderGraph.Proofs.Graph.UniqueNames
import ShaderGraph.Proofs.Editing
import ShaderGraph.Proofs.Observers
import ShaderGraph.Proofs.Emissions
import ShaderGraph.Proofs.Evaluation
import ShaderGraph.Proofs.Issuing
import ShaderGraph.Proofs.Shading.Renaming
import ShaderGraph.Proofs.Operation
import ShaderGraph.Proofs.Account
import ShaderGraph.Proofs.Correspondence
import ShaderGraph.Proofs.Nesting
import ShaderGraph.Proofs.History
import ShaderGraph.Proofs.NameCalls
import ShaderGraph.Proofs.Sharing
import ShaderGraph.Proofs.Capture
import ShaderGraph.Proofs.Detour
import ShaderGraph.Proofs.Passthrough
import ShaderGraph.Proofs.FreshNames
import ShaderGraph.Proofs.Liveness
import ShaderGraph.Proofs.Retry
import ShaderGraph.Proofs.CycleReports
import ShaderGraph.Proofs.CleanNames
import ShaderGraph.Proofs.Snapshot
import ShaderGraph.Proofs.Absorption
import ShaderGraph.Proofs.SourceLines
import ShaderGraph.Proofs.Previews
import ShaderGraph.Proofs.EditEffects
import ShaderGraph.Proofs.IntegerRange
import ShaderGraph.Proofs.OptionChanges
import ShaderGraph.Proofs.Rejection
import ShaderGraph.Proofs.SafeNames
