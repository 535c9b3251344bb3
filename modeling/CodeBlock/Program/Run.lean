import CodeBlock.Execution
import CodeBlock.Program.Overlay

set_option autoImplicit false

/-! # A run of the program

The program reads its options, its settings, the parameters and the block, in this order. Then it shows
the script, or runs the block and shows what came of it, and ends with the status of the interpreter. -/

namespace CodeBlock

/-- What the program finds when it is started. -/
structure Surroundings where
  arguments : List String
  environment : Environment
  files : Files
  /-- The standard input. -/
  input : List UInt8
  inputIsTerminal : Bool := false
  outputIsTerminal : Bool := false

/-- How the program ends. -/
inductive Ending where
  /-- It has printed something, and ends with a status. -/
  | finished (status : Int) (output : String)
  /-- The command line is not carried out. -/
  | misused (error : OptionsError)
  | failed (trouble : Trouble)

/-! ## Texts -/

/-- The name and the number of the version. -/
def versionText : String := "blockrun 0.1.0\n"

/-- What is said about the use of the program. -/
def usageText : String := "Usage: blockrun [OPTIONS] [FILE]\n"

namespace Trouble

/-- A cause after its number or a blank of the same width, its further lines below the first one. -/
def indented (start further : String) (cause : String) : String :=
  start ++ String.ofList (Text.replaceChar '\n' ('\n' :: further.toList) cause.toList)

/-- The causes, with numbers if there are several. -/
def causeLines (causes : List String) : List String :=
  match causes with
  | [cause] => [indented "    " "    " cause]
  | causes => causes.zipIdx.map fun (cause, i) =>
      let number := toString i
      let blanks := String.ofList (List.replicate (5 - number.length) ' ')
      indented (blanks ++ number ++ ": ") "       " cause

/-- The report of trouble: what went wrong, and below it the causes if there are any. -/
def report (t : Trouble) : String :=
  "Error: " ++ t.message ++
    (if t.causes.isEmpty then ""
      else "\n\nCaused by:\n" ++ String.intercalate "\n" (causeLines t.causes)) ++ "\n"

end Trouble

namespace Ending

/-- The status that is given back to the system. -/
def status : Ending → Int
  | finished status _ => status
  | misused .helpWanted => 0
  | misused .versionWanted => 0
  | misused _ => 2
  | failed _ => 1

/-- What is printed on the standard output. -/
def output : Ending → String
  | finished _ output => output
  | misused .helpWanted => usageText
  | misused .versionWanted => versionText
  | _ => ""

/-- What is printed on the standard error. -/
def errors : Ending → String
  | misused .helpWanted => ""
  | misused .versionWanted => ""
  | misused _ => usageText
  | failed trouble => trouble.report
  | finished _ _ => ""

end Ending

/-! ## Reading -/

/-- The file of the settings: in the directory for settings that the environment names, or in the one of
    the home directory. -/
def settingsPath (environment : Environment) : String :=
  let directory := match environment.get? "XDG_CONFIG_HOME" with
    | some directory =>
        if directory.toList.head? = some '/' then directory
        else (environment.get? "HOME").getD "" ++ "/.config"
    | none => (environment.get? "HOME").getD "" ++ "/.config"
  directory ++ "/blockrun/.blockrunrc"

/-- The settings that the program finds. -/
def Surroundings.settings (s : Surroundings) : Settings :=
  Settings.load (s.files.read (settingsPath s.environment)).toOption s.environment.vars

/-- Whether a path stands for the standard input: `-`, or a path from there that leads nowhere else. -/
def isInputPath (path : String) : Bool :=
  match Text.splitAll '/' path.toList with
  | first :: further => first == ['-'] && further.all fun name => name.isEmpty || name == ['.']
  | [] => false

def Options.readsInput (o : Options) : Bool := o.file.all isInputPath

/-- The text of the block. Nobody is asked to type one in, unless they say so. -/
def Surroundings.snippet (s : Surroundings) (file : Option String) : Except Trouble String :=
  let fromInput := match Text.ofBytes? s.input with
    | some text => .ok (String.ofList text)
    | none => .error (.plain FileError.notText.message)
  match file with
  | none =>
      if s.inputIsTerminal then .error (.plain "Provide a snippet file or pipe one on stdin")
      else fromInput
  | some path =>
      if isInputPath path then fromInput
      else
        match s.files.readText path with
        | .ok text => .ok text
        | .error e => .error ((Trouble.plain e.message).during ("reading snippet: " ++ path))

/-- A place for a script in a directory for passing files, or why it cannot be there. `mark` keeps its
    name apart from others. -/
def scriptPlace (files : Files) (directory : Option String) (mark : String) : Except Fault String :=
  let directory := directory.getD "/tmp"
  match files.locate directory with
  | .error e => .error (.fileUnusable e.message)
  | .ok place =>
      if files.isDirectory place then .ok (directory ++ "/" ++ scriptName mark)
      else .error (.fileUnusable FileError.notFound.message)

/-! ## Printing -/

/-- How results are printed: in red, or as they are. -/
structure Printer where
  red : Bool
  deriving DecidableEq, Repr

/-- Failed runs are red on a terminal. -/
def Printer.of (success terminal : Bool) : Printer := ⟨!success && terminal⟩

/-- A text as a line. The line end is behind the code that switches the colour off again. -/
def Printer.line (printer : Printer) (text : String) : String :=
  (if printer.red then "\x1b[31m" ++ text ++ "\x1b[39m" else text) ++ "\n"

/-- What is shown of a run: the output as it is, or what it was decoded to, without the line ends behind
    it. -/
def Execution.shown (raw : Bool) (e : Execution) : String :=
  let trimmed := fun (s : String) => String.ofList (Text.trimEndOf '\n' s.toList)
  if raw then trimmed e.output
  else
    match e.result with
    | .structured value => value.toJson.pretty
    | .raw text => trimmed text

/-! ## Running -/

/-- The status with which the program ends after a run. -/
def Execution.exitStatus (e : Execution) : Int := if e.success then 0 else e.status.getD 1

/-- What a run of the program comes to: its ending, and the calls of the interpreter that it made. -/
structure ProgramRun where
  ending : Ending
  calls : List Call

def Surroundings.block (s : Surroundings) (o : Options) : Except Trouble (Parameters × String) := do
  let p ← o.parameters s.files
  let snippet ← s.snippet o.file
  return (p, snippet)

/-- How the program ends after a run of a block. -/
def endingOf (raw terminal : Bool) : Except Fault Execution → Ending
  | .ok e => .finished e.exitStatus ((Printer.of e.success terminal).line (e.shown raw))
  | .error fault => .failed (.ofFault fault)

/-- Does what the options ask for: shows the script of the block, or runs it, by the nodes that a reader
    finds. `mark` keeps the name of its script apart from others. -/
def Surroundings.carryOutBy (read : List Char → List Snippet.Tree) (s : Surroundings) (o : Options)
    (interpreter : Interpreter) (mark : String) : ProgramRun :=
  match s.block o with
  | .error trouble => ⟨.failed trouble, []⟩
  | .ok (p, snippet) =>
      if o.expand then
        match expandBy read p snippet s.settings with
        | .ok script => ⟨.finished 0 script, []⟩
        | .error fault => ⟨.failed (.ofFault fault), []⟩
      else
        let place := scriptPlace s.files (s.environment.get? "TMPDIR") mark
        let outcome := executeBy read p snippet s.settings place interpreter s.environment
        ⟨endingOf o.raw s.outputIsTerminal outcome.result, outcome.calls⟩

/-- Runs the program with an interpreter, by the nodes that a reader finds. -/
def Surroundings.runBy (read : List Char → List Snippet.Tree) (s : Surroundings)
    (interpreter : Interpreter) (mark : String) : ProgramRun :=
  match Options.ofArguments s.arguments with
  | .error error => ⟨.misused error, []⟩
  | .ok o => s.carryOutBy read o interpreter mark

def Surroundings.run (s : Surroundings) (interpreter : Interpreter) (mark : String) : ProgramRun :=
  s.runBy Snippet.topNodes interpreter mark

end CodeBlock
