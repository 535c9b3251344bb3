import CodeBlock.Shell.Tool.Columns
import CodeBlock.Shell.Tool.Letters
import CodeBlock.Shell.Tool.Names
import CodeBlock.Shell.Tool.Numbers
import CodeBlock.Shell.Tool.Order
import CodeBlock.Shell.Tool.Parts
import CodeBlock.Shell.Tool.Search
import CodeBlock.Shell.Tool.Term

set_option autoImplicit false

/-! # The tools by name -/

namespace CodeBlock.Shell

/-- The tools, under the names by which they are called. -/
def tools : List (String × (ToolCall → ToolAnswer)) := [
  ("basename", baseNameTool),
  ("cat", showTool),
  ("comm", compareTool),
  ("cut", cutTool),
  ("dirname", directoryNameTool),
  ("egrep", Search.tool "grep" true false),
  ("expand", expandTool),
  ("expr", Term.tool),
  ("factor", factorTool),
  ("fgrep", Search.tool "grep" false true),
  ("fold", foldTool),
  ("grep", Search.tool "grep" false false),
  ("head", extentTool "head" '-' Extent.atStart),
  ("join", joinTool),
  ("nl", numberTool),
  ("paste", pasteTool),
  ("rev", reverseLetters),
  ("seq", sequenceTool),
  ("tac", reverseLines),
  ("tail", extentTool "tail" '+' Extent.atEnd),
  ("tr", Letters.tool),
  ("unexpand", unexpandTool),
  ("wc", countTool)]

end CodeBlock.Shell
