import CodeBlock.Parameters.Basic
import CodeBlock.Settings

set_option autoImplicit false

/-! # The command that runs a script

The interpreter is started through a shell: its command stands first, as it was given, then the
options that grant the permissions, then the path of the script. The path is quoted, so that it is
one word whatever is in it. -/

namespace CodeBlock

/-- A text between single quotes, in which a single quote is left out of them and escaped. -/
def quotedWord (s : List Char) : List Char :=
  '\'' :: Text.replaceChar '\'' ['\'', '\\', '\'', '\''] s ++ ['\'']

/-- A path as one word of a shell. -/
def quotePath (path : String) : String := String.ofList (quotedWord path.toList)

namespace Parameters

/-- The command that starts the interpreter: the block's own unless it is blank, and else that of the
    settings. -/
def interpreter (p : Parameters) (settings : Settings) : String :=
  (p.command.filter Settings.isPresent).getD settings.command

/-- The word that introduces the declarations: the block's own, and else that of the settings. -/
def declarationKeyword (p : Parameters) (settings : Settings) : Except Fault Keyword :=
  match p.keyword with
  | some k => .ok k
  | .none => settings.keyword

def commandLine (p : Parameters) (settings : Settings) (path : String) : String :=
  let flags := Permission.flags p.permissions
  p.interpreter settings ++ (if flags.isEmpty then "" else " " ++ flags) ++ " " ++ quotePath path

end Parameters

end CodeBlock
