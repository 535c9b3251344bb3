import CodeBlock.Shell.Builtin
import CodeBlock.Shell.Editor.Reader
import CodeBlock.Shell.Editor.Run
import CodeBlock.Shell.Switches
import CodeBlock.Shell.Tool.Basic

set_option autoImplicit false

/-! # The line editor

The line editor as a program: its arguments give the script and the files to work on. -/

namespace CodeBlock.Shell.Editor

/-- The switches of the editor. -/
def switches : SwitchTable :=
  .ofText "bsnrzuEe:f:l:i::pd" [
    ("quiet", 'n'), ("silent", 'n'), ("expression", 'e'), ("file", 'f'), ("regexp-extended", 'E'),
    ("separate", 's'), ("null-data", 'z'), ("zero-terminated", 'z'), ("unbuffered", 'u'),
    ("in-place", 'i'), ("line-length", 'l'), ("posix", 'p'), ("debug", 'd'), ("binary", 'b')]

/-- How the editor is used. -/
def usage : String :=
  "Usage: sed [OPTION]... \x7bscript-only-if-no-other-script\x7d [input-file]...\n"

/-- Where a part of a script comes from. -/
inductive Source where
  | argument
  | file (name : List Char)

/-- The parts of the script that switches give. -/
def partsOf (read : List Char → Except FileError (List Char)) :
    List (Char × List Char) → Except (List Char) (List (Source × List Char))
  | [] => .ok []
  | ('e', value) :: rest => (partsOf read rest).map ((.argument, value) :: ·)
  | ('f', name) :: rest => do
      match read name with
      | .ok text =>
          let text := if text.getLast? = some '\n' then text.dropLast else text
          (partsOf read rest).map ((.file name, text) :: ·)
      | .error e =>
          .error ("sed: couldn't open file ".toList ++ name ++ (": " ++ fileReason e).toList)
  | _ :: rest => partsOf read rest

/-- The report of what is wrong with a script. -/
def Fault.report (f : Fault) (sources : List (Source × List Char)) : List Char :=
  let number := fun (n : Nat) => Nat.toDigits 10 n
  let place := match sources[f.part - 1]? with
    | some (.file name, text) =>
        "file ".toList ++ name ++ " line ".toList ++ number ((text.take f.place).count '\n' + 1)
    | _ =>
        let before := (sources.take f.part).filter fun (source, _) =>
          match source with
          | .argument => true
          | _ => false
        "-e expression #".toList ++ number before.length ++ ", char ".toList ++ number f.place
  "sed: ".toList ++ place ++ ": ".toList ++ f.cause.message.toList

/-- The complaint about a file that cannot be read, and the status it leads to. -/
def unreadable (name : List Char) (e : FileError) : List Char × Nat :=
  if e = .isDirectory then ("sed: couldn't read ".toList ++ name ++ ": Is a directory\n".toList, 4)
  else ("sed: can't read ".toList ++ name ++ (": " ++ fileReason e ++ "\n").toList, 2)

def writeWhole (m : Machine) (name text : List Char) : Except FileError Machine :=
  (m.placeFor name).map fun place =>
    { m with files := m.files.write place (Machine.bytesOf text) }

/-- Writes what a script wrote to files. -/
def writeOutputs : List (String × Output) → Machine → Except (List Char) Machine
  | [], m => .ok m
  | (name, output) :: others, m =>
      match writeWhole m name.toList output.text with
      | .ok m => writeOutputs others m
      | .error e =>
          .error ("sed: couldn't open file ".toList ++ name.toList ++ (": " ++ fileReason e).toList)

/-- Puts a text in the place of the one that a file had, which is kept under a longer name if there is
    a suffix. -/
def replaceText (suffix : List Char) (m : Machine) : (List Char × List Char) × List Char → Machine
  | ((name, old), new) =>
      let m := if suffix.isEmpty then m else ((writeWhole m (name ++ suffix) old).toOption).getD m
      ((writeWhole m name new).toOption).getD m

/-- Ends a run whose script has left texts, a status and errors. -/
def finish (given : Switches) (texts : List (List Char × List Char)) (complaints : List (List Char × Nat))
    (outputs : List (List Char)) (status : Option Nat) (errors : List Char) (m : Machine) : Machine :=
  let m :=
    if given.has 'i' then (texts.zip outputs).foldl (replaceText ((given.value? 'i').getD [])) m
    else m.write 1 outputs.flatten
  let m := (m.write 2 (complaints.flatMap (·.1))).write 2 errors
  match status with
  | none => { m with flow := .expired }
  | some status =>
      m.withStatus (if status = 0 then (complaints.map (·.2)).foldl max 0 else status)

/-- Runs a script over files. -/
def edit (given : Switches) (script : Script) (names : List (List Char)) (m : Machine) : Machine :=
  let inPlace := given.has 'i'
  let lineEnd := if given.has 'z' then '\x00' else '\n'
  let read := names.map fun name => (name, m.readFile name)
  let texts := read.filterMap fun (name, found) => found.toOption.map fun text => (name, text)
  let complaints := read.filterMap fun (name, found) =>
    match found with
    | .ok _ => none
    | .error e => some (unreadable name e)
  let set : Setting := {
    script := script.instructions
    isSilent := given.has 'n' || script.isSilent
    lineEnd := lineEnd
    isSplit := inPlace
    width := ((given.value? 'l').bind countOf?).getD 70
    read := fun name => (m.readFile name).toOption }
  let groups := if names.isEmpty then [([([], m.input)])]
    else if inPlace || given.has 's' then texts.map ([·])
    else [texts]
  let m := if names.isEmpty || names.contains ['-'] then m.leave [] else m
  let (outputs, status, s) := runTexts set (groups.map (linesOf lineEnd)) (.start script.instructions)
  match writeOutputs (s.files.filter fun (name, _) => name != "/dev/stdout") m with
  | .error report => (m.warn report).withStatus 4
  | .ok m => finish given texts complaints outputs status s.errors m

/-- Runs the script that some parts make, if there are any. -/
def runParts (given : Switches) (sources : List (Source × List Char)) (names : List (List Char))
    (m : Machine) : Machine :=
  if sources.isEmpty && !(given.has 'e' || given.has 'f') then (m.write 2 usage.toList).withStatus 1
  else
    match Script.ofParts (given.has 'E' || given.has 'r') (sources.map (·.2)) with
    | .error fault => (m.warn (fault.report sources)).withStatus 1
    | .ok script =>
        match script.missingLabels with
        | label :: _ =>
            (m.warn ("sed: can't find label for jump to `".toList ++ label ++ ['\''])).withStatus 4
        | [] =>
            if given.has 'i' && names.isEmpty then (m.warn "sed: no input files".toList).withStatus 4
            else edit given script names m

/-- The line editor. -/
def run : Builtin := fun arguments m =>
  match switches.read false arguments with
  | .error fault =>
      ((m.warn ("sed: ".toList ++ fault.message)).write 2 usage.toList).withStatus 1
  | .ok given =>
      match partsOf m.readFile given.given, given.operands with
      | .error report, _ => (m.warn report).withStatus 1
      | .ok [], script :: names => runParts given [(.argument, script)] names m
      | .ok sources, names => runParts given sources names m

end CodeBlock.Shell.Editor
