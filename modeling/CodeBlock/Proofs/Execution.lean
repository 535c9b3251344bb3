import CodeBlock.Execution
import CodeBlock.Proofs.Shell.Words

set_option autoImplicit false

/-! # What comes of a run

A run gives up before the interpreter is called, or calls it once. In between, the variable for colours is
overridden, and the override is undone whatever the interpreter does; what the run comes to is the
interpreter's answer: its fault, or what it printed with its status and what that decodes to. -/

namespace CodeBlock

section

variable (read : List Char → List Snippet.Tree) (p : Parameters) (snippet : String) (settings : Settings)
  (interpreter : Call → Except Fault Captured × Environment) (environment : Environment)

def Parameters.call (script path : String) : Call :=
  ⟨p.commandLine settings path, path, script, environment.set colourVariable "1"⟩

end

end CodeBlock
