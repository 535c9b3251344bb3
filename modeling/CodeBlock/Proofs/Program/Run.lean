import CodeBlock.Program.Run
import CodeBlock.Proofs.Execution
import CodeBlock.Proofs.Program.Switches
import Mathlib

set_option autoImplicit false

/-! # What comes of a run of the program

Once the command line is understood, a run gives up before it has a script, or it has one. A script is shown
if that is wanted, and then it is the one that the interpreter would be given; else the interpreter is called
once, and the program shows what it printed and ends as it ended. -/

namespace CodeBlock

/-! ## What is printed -/

namespace Surroundings

variable (read : List Char → List Snippet.Tree) (s : Surroundings) (o : Options)

/-- Where a script can be put. -/
def place (mark : String) : Except Fault String :=
  scriptPlace s.files (s.environment.get? "TMPDIR") mark

end Surroundings

namespace Surroundings

variable {read : List Char → List Snippet.Tree} {s : Surroundings} {o : Options} {interpreter : Interpreter}
  {mark : String}

/-- The same surroundings with the first argument of a form left out. -/
def without (s : Surroundings) (argument : String) : Surroundings :=
  { s with arguments := s.arguments.erase argument }

end Surroundings

end CodeBlock
