import CodeBlock.Shell.Builtin.Directory
import CodeBlock.Shell.Builtin.Input
import CodeBlock.Shell.Builtin.Naming
import CodeBlock.Shell.Builtin.Trap
import CodeBlock.Shell.Builtin.Variables

set_option autoImplicit false

/-! # The commands of the shell by name -/

namespace CodeBlock.Shell.Builtin

def nothing (status : Nat) : Builtin := fun _ m => m.withStatus status

/-- The commands by name, apart from those that run other commands. -/
def all : List (String × Builtin) := [
  (":", nothing 0), ("true", nothing 0), ("false", nothing 1), ("exit", exit), ("return", leaveCall),
  ("break", withLoops .leaveLoops), ("continue", withLoops .nextRound),
  ("echo", fun arguments m => print "echo" (echoed arguments) m), ("printf", printf),
  ("[", bracket), ("test", test), ("cd", cd), ("chdir", cd), ("pwd", pwd), ("umask", umask),
  ("read", read), ("set", set), ("shift", shift), ("export", publish), ("readonly", keep),
  ("local", hide), ("unset", unset), ("getopts", getOption), ("alias", defineAlias),
  ("unalias", forgetAlias), ("trap", trap), ("wait", wait), ("jobs", jobs), ("fg", move), ("bg", move),
  ("times", times), ("ulimit", limits)]

/-- The commands that run or look for other commands. -/
def others : List String := [".", "command", "eval", "exec", "hash", "kill", "type"]

/-- Whether the shell carries out a command of a name itself. -/
def isKnown (name : String) : Bool := (all.lookup name).isSome || others.contains name

end CodeBlock.Shell.Builtin
