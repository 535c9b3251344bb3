import CodeBlock.Shell.Tool.Basic
import CodeBlock.Text.Split

set_option autoImplicit false

/-! # Names of files

Tools that take paths apart. -/

namespace CodeBlock.Shell

/-- The last name of a path, without an ending. -/
def baseName (path ending : List Char) : List Char :=
  let trimmed := (path.reverse.dropWhile (· == '/')).reverse
  if trimmed.isEmpty then (if path.isEmpty then [] else ['/'])
  else
    let name := (Text.splitAll '/' trimmed).getLastD []
    if ending.isSuffixOf name && ending != name then name.take (name.length - ending.length) else name

/-- A path without its last name. -/
def directoryName (path : List Char) : List Char :=
  let trimmed := (path.reverse.dropWhile (· == '/')).reverse
  if trimmed.isEmpty then (if path.isEmpty then ['.'] else ['/'])
  else if trimmed.contains '/' then
    let before := (trimmed.reverse.dropWhile (· != '/')).dropWhile (· == '/')
    if before.isEmpty then ['/'] else before.reverse
  else ['.']

/-- The tool that gives last names. -/
def baseNameTool (call : ToolCall) : ToolAnswer :=
  let table := SwitchTable.ofText "as:z" [("multiple", 'a'), ("suffix", 's'), ("zero", 'z')]
  match table.read true call.arguments with
  | .error fault => .advising "basename" 1 fault.message
  | .ok given =>
      let lineEnd := if given.has 'z' then '\x00' else '\n'
      let ending := (given.value? 's').getD []
      match given.has 'a' || given.has 's', given.operands with
      | _, [] => .advising "basename" 1 "missing operand".toList
      | true, paths => .printing (paths.flatMap (baseName · ending ++ [lineEnd]))
      | false, [path] => .printing (baseName path [] ++ [lineEnd])
      | false, [path, ending] => .printing (baseName path ending ++ [lineEnd])
      | false, _ :: _ :: extra :: _ =>
          .advising "basename" 1 ("extra operand ".toList ++ quoted extra)

/-- The tool that leaves out last names. -/
def directoryNameTool (call : ToolCall) : ToolAnswer :=
  match (SwitchTable.ofText "z" [("zero", 'z')]).read true call.arguments with
  | .error fault => .advising "dirname" 1 fault.message
  | .ok given =>
      let lineEnd := if given.has 'z' then '\x00' else '\n'
      match given.operands with
      | [] => .advising "dirname" 1 "missing operand".toList
      | paths => .printing (paths.flatMap (directoryName · ++ [lineEnd]))

end CodeBlock.Shell
