import CodeBlock.CommandLine
import CodeBlock.Environment
import CodeBlock.Listing
import CodeBlock.Script
import CodeBlock.Snippet.Hoist

set_option autoImplicit false

/-! # Running a block

A block is expanded to a script, the script is written to a file, and the interpreter is run on the
file; what it prints is decoded. An interpreter is anything that answers a call. While it runs,
colours are switched off, for their codes would end up in the result. -/

namespace CodeBlock

/-- The script of a block: its imports, the declarations of its variables, its prologue, its body and
    its epilogue. The block is taken apart by the nodes that a reader finds in it. -/
def scriptBy (read : List Char → List Snippet.Tree) (p : Parameters) (keyword : Keyword)
    (snippet : List Char) : Script :=
  let parts := Snippet.partsBy read snippet
  { imports := parts.imports
    declarations := p.bindings.map fun b => (b.declaration keyword).toList
    prologue := p.prologue.map String.toList
    body := parts.body
    epilogue := p.epilogue.map String.toList
    wrapped := p.resultKind == .value }

/-- The text of the script of a block, or why there is none, by the nodes that a reader finds. -/
def expandBy (read : List Char → List Snippet.Tree) (p : Parameters) (snippet : String)
    (settings : Settings) : Except Fault String := do
  p.validate
  let keyword ← p.declarationKeyword settings
  return String.ofList ((scriptBy read p keyword snippet.toList).textBy read)

/-- The text of the script of a block, or why there is none. -/
def expand (p : Parameters) (snippet : String) (settings : Settings) : Except Fault String :=
  expandBy Snippet.topNodes p snippet settings

/-! ## Calls -/

/-- What an interpreter printed, and how it ended: without a status when it was killed. -/
structure Captured where
  text : String
  status : Option Int
  deriving DecidableEq, Repr

/-- Whether a status says that all went well. -/
def isSuccess (status : Option Int) : Bool := status == some 0

/-- A call of the interpreter. -/
structure Call where
  command : String
  /-- Where the script is. -/
  path : String
  /-- What the script's file holds. -/
  script : String
  environment : Environment

/-- Anything that answers calls. -/
abbrev Interpreter := Call → Except Fault Captured

/-- A finished run. -/
structure Execution where
  script : String
  command : String
  /-- What the interpreter printed. -/
  output : String
  status : Option Int
  result : Decoded

/-- Whether the run went well. -/
def Execution.success (e : Execution) : Bool := isSuccess e.status

/-- What comes of a run: a result or a fault, the calls that were made, and the environment
    afterwards. -/
structure Outcome where
  result : Except Fault Execution
  calls : List Call
  environment : Environment

def colourVariable : String := "NO_COLOR"

/-- The name of a script's file; `mark` keeps it apart from other files. -/
def scriptName (mark : String) : String := "blockrun-" ++ mark ++ ".ts"

/-- Runs a block. `place` says where the script's file can be, or why it cannot be anywhere; the interpreter
    answers the call and leaves an environment behind. -/
def executeWith (read : List Char → List Snippet.Tree) (p : Parameters) (snippet : String)
    (settings : Settings) (place : Except Fault String)
    (interpreter : Call → Except Fault Captured × Environment) (environment : Environment) : Outcome :=
  match expandBy read p snippet settings, place with
  | .error fault, _ => ⟨.error fault, [], environment⟩
  | .ok _, .error fault => ⟨.error fault, [], environment⟩
  | .ok script, .ok path =>
      let (without, override) := Override.make environment colourVariable "1"
      let call : Call := ⟨p.commandLine settings path, path, script, without⟩
      let (answer, left) := interpreter call
      let result :=
        match answer with
        | .error fault => .error fault
        | .ok captured =>
            .ok ⟨script, call.command, captured.text, captured.status, decode captured.text⟩
      ⟨result, [call], override.undo left⟩

/-- Runs a block with an interpreter that leaves the environment as it is. -/
def executeBy (read : List Char → List Snippet.Tree) (p : Parameters) (snippet : String)
    (settings : Settings) (place : Except Fault String) (interpreter : Interpreter)
    (environment : Environment) : Outcome :=
  executeWith read p snippet settings place (fun call => (interpreter call, call.environment)) environment

/-- Runs a block by the nodes of its snippet. -/
def execute (p : Parameters) (snippet : String) (settings : Settings)
    (place : Except Fault String) (interpreter : Interpreter) (environment : Environment) : Outcome :=
  executeBy Snippet.topNodes p snippet settings place interpreter environment

end CodeBlock
