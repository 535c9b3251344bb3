import CodeBlock.Files
import CodeBlock.Parameters.Reader
import CodeBlock.Program.Options

set_option autoImplicit false

/-! # Parameters from the command line

The parameters of a run are those of the parameters file, if there is one, with the options laid over
them: an option replaces what the file says, permissions are added, and variables and column names
are put one by one. The value of a variable is read as JSON, and taken as a text where it is none. -/

namespace CodeBlock

/-- Why the program gives up: what it was doing, and further causes, outermost first. -/
structure Trouble where
  message : String
  causes : List String
  deriving DecidableEq, Repr

namespace Trouble

/-- Trouble without a further cause. -/
def plain (message : String) : Trouble := ⟨message, []⟩

def ofFault (fault : Fault) : Trouble := ⟨fault.message, fault.cause?.toList⟩

/-- Trouble that came up while something was done. -/
def during (doing : String) (t : Trouble) : Trouble := ⟨doing, t.message :: t.causes⟩

def line (t : Trouble) : String := String.intercalate ": " (t.message :: t.causes)

end Trouble

namespace Options

/-- The name and the value of a variable that is given as `NAME=VALUE`. -/
def readVariable (text : String) : Except Trouble (String × Json) :=
  match Text.splitOnce '=' text.toList with
  | .none => .error (.plain ("--var expects NAME=VALUE, got `" ++ text ++ "`"))
  | some (name, raw) =>
      let name := Text.trim name
      if name.isEmpty then .error (.plain ("--var is missing a name in `" ++ text ++ "`"))
      else
        match Json.ofText raw with
        | .ok value => .ok (String.ofList name, value)
        | .error _ => .ok (String.ofList name, .string (String.ofList raw))

/-- The variable and the field names that are given as `NAME=A,B`. -/
def readColumns (text : String) : Except Trouble (String × List String) :=
  match Text.splitOnce '=' text.toList with
  | .none => .error (.plain ("--colnames expects NAME=A,B, got `" ++ text ++ "`"))
  | some (name, names) =>
      .ok (String.ofList (Text.trim name),
        (Text.splitAll ',' names).map fun n => String.ofList (Text.trim n))

def parametersOfFile (files : Files) (path : String) : Except Trouble Parameters :=
  match files.readText path with
  | .error e => .error ((Trouble.plain e.message).during ("reading params file: " ++ path))
  | .ok text =>
      match Parameters.ofString text with
      | .error fault => .error ((Trouble.ofFault fault).during ("parsing params file: " ++ path))
      | .ok p => .ok p

/-- The parameters with the options laid over them. -/
def overlay (o : Options) (p : Parameters) : Except Trouble Parameters := do
  let vars ← o.vars.mapM readVariable
  let columnNames ← o.columnNames.mapM readColumns
  return {
    command := o.command.or p.command
    resultKind := o.resultKind.getD p.resultKind
    vars := vars.foldl (fun table (name, value) => Table.put name value table) p.vars
    permissions := p.permissions ++ o.permissions
    columnNames :=
      columnNames.foldl (fun table (name, names) => Table.put name names table) p.columnNames
    keyword := o.keyword.or p.keyword
    prologue := o.prologue.or p.prologue
    epilogue := o.epilogue.or p.epilogue
    session := p.session }

/-- The parameters of the run that the options ask for. -/
def parameters (o : Options) (files : Files) : Except Trouble Parameters := do
  let p ← match o.parametersFile with
    | some path => parametersOfFile files path
    | .none => .ok Parameters.none
  o.overlay p

end Options

end CodeBlock
