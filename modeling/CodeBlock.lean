import CodeBlock.Main
import CodeBlock.Proofs.Environment
import CodeBlock.Proofs.Execution
import CodeBlock.Proofs.Json.Arrays
import CodeBlock.Proofs.Listing.Stability
import CodeBlock.Proofs.Listing.Writing
import CodeBlock.Proofs.Parameters.Rearranging
import CodeBlock.Proofs.Permission
import CodeBlock.Proofs.Program.Overlay
import CodeBlock.Proofs.Program.Run
import CodeBlock.Proofs.Script.Confinement
import CodeBlock.Proofs.Script.Launcher
import CodeBlock.Proofs.Settings
import CodeBlock.Proofs.Shell.Arguments
import CodeBlock.Proofs.Shell.Editing
import CodeBlock.Proofs.Shell.Lines
import CodeBlock.Proofs.Shell.Nesting
import CodeBlock.Proofs.Shell.Patterns
import CodeBlock.Proofs.Shell.Quoted
import CodeBlock.Proofs.Shell.Records.Fields
import CodeBlock.Proofs.Shell.Sorting
import CodeBlock.Proofs.Snippet.Settling
import CodeBlock.Proofs.Text.Camel
import CodeBlock.Proofs.Value.Cutting
import CodeBlock.Proofs.Value.Json
import CodeBlock.Proofs.Value.Labels
import CodeBlock.Proofs.Value.Rendering
import CodeBlock.Proofs.Value.Unambiguous
