import CodeBlock.Program.Run
import CodeBlock.Shell.Interpreter

set_option autoImplicit false

/-! # Starting the program

The interpreter of the program is a shell, which finds the files that the program finds and may take as
long as the settings say. -/

namespace CodeBlock

/-- The shell that carries out the calls of the program. -/
def Surroundings.shell (s : Surroundings) : Interpreter :=
  Shell.interpreter s.files (Shell.timeLimit s.settings)

/-- How the program ends. `mark` keeps the name of its script apart from others. -/
def Surroundings.start (s : Surroundings) (mark : String) : Ending := (s.run s.shell mark).ending

end CodeBlock
