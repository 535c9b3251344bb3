import CodeBlock.Shell.Records.Fitting
import CodeBlock.Shell.Records.Layout
import CodeBlock.Shell.Records.Script
import CodeBlock.Shell.Records.Splitting
import CodeBlock.Shell.Records.Table
import CodeBlock.Shell.FilePrograms
import CodeBlock.Shell.Runner

set_option autoImplicit false

/-! # What a script over records works on

A script has variables, tables, and the record with its fields. A variable that was never set may become
a table, also in a function that it is given to. The number of fields, the record and the fields follow one
another. What is printed is kept back until the script ends, or something else is run. -/

namespace CodeBlock.Shell.Records

/-- What a variable holds. -/
inductive Cell where
  | value (v : Value)
  /-- The table of the number; one that was never looked up is no different from a value that was never
      set. -/
  | table (number : Nat)

/-- What is printed to, besides the output. -/
structure Sink where
  name : List Char
  isCommand : Bool
  /-- What was printed, last piece first. -/
  pieces : List (List Char)

/-- What is read from, besides the input. -/
structure Source where
  name : List Char
  rest : List Char
  /-- The status of a command. -/
  status : Nat

/-- The state of a run. -/
structure Session where
  script : Script
  machine : Machine
  globals : List (String × Cell)
  locals : List (String × Cell)
  /-- The number of arguments of all calls around. -/
  depth : Nat
  tables : Array CodeBlock.Shell.Records.Table
  record : Value
  fields : Array Value
  /-- What was printed, last piece first. -/
  pieces : List (List Char)
  sinks : List Sink
  sources : List Source
  /-- What is left of the text that is read, and whether it is the first one. -/
  pending : Option (List Char)
  /-- The number of the next argument to be read. -/
  nextArgument : Nat
  /-- Whether a text was read for an argument. -/
  sawText : Bool
  /-- The rules for which a first record was found and no last one. -/
  within : List Nat
  /-- The value that random numbers start with. -/
  seed : Value
  status : Nat

/-- Why statements are not run to their end. -/
inductive Stop where
  | leave
  | again
  | next
  | nextFile
  | exit
  | giveBack (value : Value)
  /-- The run fails with a message. -/
  | failed (message : List Char)
  /-- Nothing goes on. -/
  | halted

abbrev Action := ExceptT Stop (StateM Session)

namespace Session

/-! ## Variables -/

/-- What a variable holds. -/
def cell? (s : Session) (name : String) : Option Cell :=
  match s.locals.lookup name with
  | some cell => some cell
  | none => s.globals.lookup name

/-- With a variable that holds something else. -/
def setCell (s : Session) (name : String) (cell : Cell) : Session :=
  if (s.locals.lookup name).isSome then { s with locals := Table.put name cell s.locals }
  else { s with globals := Table.put name cell s.globals }

/-- The value of a variable. -/
def get (s : Session) (name : String) : Value :=
  match s.cell? name with
  | some (.value v) => v
  | _ => .unset

/-- The text of a variable of all functions that is a text. -/
def setting (s : Session) (name : String) : List Char :=
  match s.globals.lookup name with
  | some (.value (.text t)) => t
  | some (.value (.numeric t _)) => t
  | some (.value (.number x)) => numberText "%.6g".toList x
  | _ => []

/-- How numbers become texts. -/
def write (s : Session) : Binary64 → List Char := numberText (s.setting "CONVFMT")

/-- The text of a value. -/
def textOf (s : Session) (v : Value) : List Char := v.toText s.write

def separatorOf (text : List Char) : Except Regex.Failure Separator :=
  match text with
  | [' '] => .ok .blanks
  | [] => .ok .nothing
  | [c] => .ok (.character c)
  | text => (regexOf text).map .fitting

/-- What stands between fields. -/
def separator (s : Session) : Separator :=
  ((separatorOf (s.setting "FS")).toOption).getD .blanks

/-- What stands between records. -/
def recordEnd (s : Session) : RecordEnd :=
  match s.setting "RS" with
  | [] => .emptyLines
  | [c] => .character c
  | text => ((regexOf text).toOption.map .fitting).getD (.character '\n')

/-- With a variable of all functions set. -/
def setGlobal (s : Session) (name : String) (v : Value) : Session :=
  { s with globals := Table.put name (.value v) s.globals }

/-! ## The record and its fields -/

def setRecord (s : Session) (v : Value) : Session :=
  let fields := (s.separator.split (s.textOf v)).map Value.ofInput
  { s with record := v, fields := fields.toArray }.setGlobal "NF" (.ofNat fields.length)

def joinFields (s : Session) : Session :=
  let texts := s.fields.toList.map s.textOf
  { s with record := .ofInput (texts.intersperse (s.setting "OFS")).flatten }

/-- With so many fields. -/
def resize (s : Session) (count : Nat) : Session :=
  let fields := (s.fields.toList.take count).toArray
  { s with fields := fields ++ Array.replicate (count - fields.size) (.text []) }

/-- The greatest number of fields. -/
def greatestCount : Nat := 1000000

def field (s : Session) (number : Nat) : Value :=
  if number = 0 then s.record else s.fields.getD (number - 1) .unset

def setField (s : Session) (number : Nat) (v : Value) : Session :=
  if number = 0 then s.setRecord v
  else
    let s := if s.fields.size < number then
        (s.resize number).setGlobal "NF" (.ofNat number) else s
    { s with fields := s.fields.setIfInBounds (number - 1) v }.joinFields

/-- With another value of a variable. -/
def set (s : Session) (name : String) (v : Value) : Session :=
  let s := s.setCell name (.value v)
  if name = "NF" && (s.locals.lookup name).isNone then
    (s.resize (min greatestCount v.toWhole.toNat)).joinFields
  else s

/-! ## Tables -/

/-- The number of the table that a name stands for. -/
def tableOf (s : Session) (name : String) : Nat × Session :=
  match s.cell? name with
  | some (.table number) => (number, s)
  | _ =>
      let number := s.tables.size
      (number, { s with tables := s.tables.push .empty }.setCell name (.table number))

/-- The number of the table that an expression is the name of. -/
def tableIn? (s : Session) (e : Expr) : Option Nat :=
  match e with
  | .named name =>
      match s.cell? name with
      | some (.table number) => some number
      | _ => none
  | _ => none

def setTable (s : Session) (number : Nat) (t : Table) : Session :=
  { s with tables := s.tables.setIfInBounds number t }

/-- Looks up a key in a table, and makes it. -/
def findKey (s : Session) (number : Nat) (make : Bool) (key : Value) : List Char × Session :=
  let (key, t) := (s.tables.getD number .empty).find s.write make key
  (key, s.setTable number t)

/-- The value under a key. -/
def element (s : Session) (number : Nat) (key : List Char) : Value :=
  ((s.tables.getD number .empty).get? key).getD .unset

/-- With another value under a key. -/
def setElement (s : Session) (number : Nat) (key : List Char) (v : Value) : Session :=
  s.setTable number ((s.tables.getD number .empty).set key v)

/-! ## Printing -/

def print (s : Session) (piece : List Char) : Session := { s with pieces := piece :: s.pieces }

/-- With nothing kept back. -/
def flush (s : Session) : Session :=
  { s with machine := s.machine.write 1 s.pieces.reverse.flatten, pieces := [] }

/-- A machine with a text at the end of a file. -/
def appendTo (m : Machine) (name text : List Char) : Machine :=
  match m.placeFor name with
  | .ok place =>
      { m with
        files := m.files.write place (((m.files.content? place).getD []) ++ Machine.bytesOf text) }
  | .error _ => m

/-- With nothing kept back for the output and for files. -/
def flushAll (s : Session) : Session :=
  let texts := s.sinks.filter fun sink => !sink.isCommand && !sink.pieces.isEmpty
  let m := texts.foldl (fun m sink => appendTo m sink.name sink.pieces.reverse.flatten) s.machine
  { s with
    machine := m
    sinks := s.sinks.map fun (sink : Sink) => if sink.isCommand then sink else { sink with pieces := [] }
    }.flush

end Session

/-! ## Programs -/

section

variable (run : Runner)

namespace Session

def runCommand (s : Session) (command : List Char) (input : Option (List Char)) : Nat × Session :=
  let path := "/bin/sh".toList
  let after := match input with
    | none => runShell run path [] [] (runText run command) s.machine
    | some text =>
        let (number, inner) := s.machine.openBuffer text
        let after := runShell run path [] [] (runText run command) (inner.connect 0 (.buffer number))
        ({ after with scope := s.machine.scope }.closeBuffer number).2
  (after.status, { s with machine := after })

/-- What a command prints, and its status. -/
def outputOf (s : Session) (command : List Char) : List Char × Nat × Session :=
  let s := s.flushAll
  let (number, inner) := s.machine.openBuffer []
  let after := runShell run "/bin/sh".toList [] [] (runText run command)
    (inner.connect 1 (.buffer number))
  let (text, m) := { after with scope := s.machine.scope }.closeBuffer number
  (text, m.status, { s with machine := m })

/-- Ends what is printed to a file or a command; gives the status. -/
def closeSink (s : Session) (sink : Sink) : Nat × Session :=
  let text := sink.pieces.reverse.flatten
  let s := { s with sinks := s.sinks.filter fun other => other.name != sink.name }
  if sink.isCommand then runCommand run s sink.name (some text)
  else (0, { s with machine := appendTo s.machine sink.name text })

/-- Ends all that is printed to; the output comes last. -/
def closeAll (s : Session) : Session :=
  (s.sinks.foldl (fun s sink => (closeSink run s sink).2) s).flush

end Session

end

end CodeBlock.Shell.Records
