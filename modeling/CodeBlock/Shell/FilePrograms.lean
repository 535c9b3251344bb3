import CodeBlock.Shell.Builtin
import CodeBlock.Shell.Tool

set_option autoImplicit false

/-! # Programs that keep files

Programs that make, copy, move and remove files and directories, and list what is there. -/

namespace CodeBlock.Shell

def directoryPath (place : FilePlace) : String :=
  if place.isEmpty then "/" else String.join (place.map ("/" ++ ·))

def runTool (tool : ToolCall → ToolAnswer) (arguments : List (List Char)) (m : Machine) : Machine :=
  let answer := tool ⟨arguments, m.input, m.inputIsFile, m.readFile⟩
  let m := if answer.usedInput then m.leave [] else m
  ((m.write 1 answer.output).write 2 answer.errors).withStatus answer.status

/-- Takes the arguments of a program apart. -/
def withSwitches (name : String) (table : SwitchTable) (f : Switches → Machine → Machine) :
    Builtin := fun arguments m =>
  match table.read false arguments with
  | .ok given => f given m
  | .error fault => runTool (fun _ => .advising name 1 fault.message) [] m

def complainAs (name : String) (message : List Char) (m : Machine) : Machine :=
  (m.warn ((name ++ ": ").toList ++ message)).withStatus 1

def missingOperand (name message : String) (m : Machine) : Machine :=
  runTool (fun _ => .advising name 1 message.toList) [] m

/-- A complaint of the form `action 'path': reason`. -/
def cannot (action : String) (path : List Char) (reason : String) : List Char :=
  (action ++ " ").toList ++ quoted path ++ (": " ++ reason).toList

/-- What stands at the end of a path. -/
inductive Standing where
  | file (place : FilePlace) (bytes : List UInt8)
  | directory (place : FilePlace)
  /-- Nothing, but it could be made. -/
  | free (place : FilePlace)
  | none (e : FileError)

/-- What stands at the end of a path. -/
def standing (m : Machine) (path : List Char) : Standing :=
  match m.tree.locate (Machine.outside path) with
  | .error e => .none e
  | .ok place =>
      if m.files.isDirectory place then .directory place
      else
        match m.files.content? place with
        | some bytes => .file place bytes
        | none =>
            if m.files.isDirectory place.dropLast then
              if path.getLast? = some '/' then .none .notFound else .free place
            else .none .notFound

/-! ## Making and removing -/

/-- The program that copies its input to files. -/
def copyInput : Builtin := withSwitches "tee" (.ofText "aip" [("append", 'a')]) fun given m =>
  let text := m.input
  let m := (m.leave []).write 1 text
  given.operands.foldl (fun m path =>
    if path = "/dev/null".toList then m
    else if path = "/dev/stdout".toList then m.write 1 text
    else if path = "/dev/stderr".toList then m.write 2 text
    else
      match m.placeFor path with
      | .ok place =>
          let before := if given.has 'a' then (m.files.content? place).getD [] else []
          { m with files := m.files.write place (before ++ Machine.bytesOf text) }
      | .error e => (m.warn (complaintOf "tee" path (fileReason e))).withStatus 1) (m.withStatus 0)

/-- The program that makes files. -/
def makeFiles : Builtin :=
  withSwitches "touch" (.ofText "acmht:d:r:" [("no-create", 'c'), ("date", 'd')]) fun given m =>
    if given.operands.isEmpty then missingOperand "touch" "missing file operand" m
    else
      given.operands.foldl (fun m path =>
        match m.placeFor path with
        | .ok place =>
            if given.has 'c' && (m.files.content? place).isNone then m
            else { m with files := m.files.write place ((m.files.content? place).getD []) }
        | .error .isDirectory => m
        | .error e => complainAs "touch" (cannot "cannot touch" path (fileReason e)) m)
        (m.withStatus 0)

/-- The program that takes files away. -/
def removeFiles : Builtin :=
  withSwitches "rm" (.ofText "dfiIrRv" [("force", 'f'), ("recursive", 'r'), ("dir", 'd')])
    fun given m =>
      let deep := given.has 'r' || given.has 'R'
      let failed := fun (path : List Char) (e : FileError) (m : Machine) =>
        complainAs "rm" (cannot "cannot remove" path (fileReason e)) m
      if given.operands.isEmpty && !given.has 'f' then missingOperand "rm" "missing operand" m
      else
        given.operands.foldl (fun m path =>
          match standing m path with
          | .file place _ => { m with files := m.files.remove place }
          | .directory place =>
              if deep then { m with files := m.files.removeAll place }
              else if given.has 'd' && (m.entries place).isEmpty then
                { m with files := m.files.removeAll place }
              else if given.has 'd' then
                complainAs "rm" (cannot "cannot remove" path "Directory not empty") m
              else failed path .isDirectory m
          | .free _ => if given.has 'f' then m else failed path .notFound m
          | .none e =>
              if given.has 'f' && (e == .notFound || e == .notDirectory) then m
              else failed path e m) (m.withStatus 0)

def makeWay (place : FilePlace) (files : Files) : Files :=
  (List.range place.length).foldl (fun files i =>
    let part := place.take (i + 1)
    if files.isDirectory part then files else files.makeDirectory part) files

/-- The place that a path leads to if all on the way were there. -/
def placeOnWay (m : Machine) (path : List Char) : FilePlace :=
  let names := (Text.splitAll '/' path).map Machine.outside
  names.foldl (fun place name =>
    if name = "" || name = "." then place
    else if name = ".." then place.dropLast
    else place ++ [name]) (if path.head? = some '/' then [] else m.scope.working)

/-- The program that makes directories. -/
def makeDirectories : Builtin :=
  withSwitches "mkdir" (.ofText "pm:v" [("parents", 'p'), ("mode", 'm'), ("verbose", 'v')])
    fun given m =>
      let told := fun (path : List Char) (m : Machine) =>
        if given.has 'v' then
          m.write 1 ("mkdir: created directory ".toList ++ quoted path ++ ['\n']) else m
      let failed := fun (path : List Char) (reason : String) (m : Machine) =>
        complainAs "mkdir" (cannot "cannot create directory" path reason) m
      if given.operands.isEmpty then missingOperand "mkdir" "missing operand" m
      else
        given.operands.foldl (fun m path =>
          match standing m path with
          | .file _ _ => failed path "File exists" m
          | .directory _ => if given.has 'p' then m else failed path "File exists" m
          | .free place => told path { m with files := m.files.makeDirectory place }
          | .none e =>
              if e = .notFound && !path.isEmpty then
                let trimmed := (path.reverse.dropWhile (· == '/')).reverse
                match given.has 'p', standing m trimmed with
                | true, _ => { m with files := makeWay (placeOnWay m path) m.files }
                | false, .free place => told path { m with files := m.files.makeDirectory place }
                | false, _ => failed path (fileReason e) m
              else failed path (fileReason e) m) (m.withStatus 0)

/-- The program that takes empty directories away. -/
def removeDirectories : Builtin :=
  withSwitches "rmdir" (.ofText "pv" [("parents", 'p')]) fun given m =>
    let failed := fun (path : List Char) (reason : String) (m : Machine) =>
      complainAs "rmdir" (cannot "failed to remove" path reason) m
    if given.operands.isEmpty then missingOperand "rmdir" "missing operand" m
    else
      given.operands.foldl (fun m path =>
        match standing m path with
        | .directory place =>
            if (m.entries place).isEmpty then { m with files := m.files.removeAll place }
            else failed path "Directory not empty" m
        | .file _ _ => failed path "Not a directory" m
        | .free _ => failed path "No such file or directory" m
        | .none e => failed path (fileReason e) m) (m.withStatus 0)

/-! ## Copying and moving -/

def within (directory path : List Char) : List Char :=
  let directory := (directory.reverse.dropWhile (· == '/')).reverse
  directory ++ '/' :: baseName path []

/-- Copies or moves one thing to a path. -/
def transfer (name : String) (moves deep : Bool) (source target : List Char) (m : Machine) :
    Machine :=
  let place? := match standing m target with
    | .free place => Except.ok place
    | .file place _ => .ok place
    | .directory place => .ok place
    | .none e => .error e
  let same := fun (place : FilePlace) =>
    complainAs name (quoted source ++ " and ".toList ++ quoted target ++
      " are the same file".toList) m
    |> fun failed => if place?.toOption == some place then some failed else none
  match standing m source with
  | .file place bytes =>
      match same place, place? with
      | some failed, _ => failed
      | none, .ok goal =>
          if m.files.isDirectory goal then
            complainAs name (("cannot overwrite directory ").toList ++ quoted target ++
              (" with non-directory").toList) m
          else
            let files := m.files.write goal bytes
            { m with files := if moves then files.remove place else files }
      | none, .error e =>
          let action :=
            if moves then "cannot move ".toList ++ quoted source ++ " to".toList
            else "cannot create regular file".toList
          complainAs name (action ++ ' ' :: quoted target ++ (": " ++ fileReason e).toList) m
  | .directory place =>
      if !deep then
        complainAs name ("-r not specified; omitting directory ".toList ++ quoted source) m
      else
        match same place, place? with
        | some failed, _ => failed
        | none, .ok goal =>
            if (m.files.content? goal).isSome then
              complainAs name ("cannot overwrite non-directory ".toList ++ quoted target ++
                " with directory ".toList ++ quoted source) m
            else if place.isPrefixOf goal then
              complainAs name (
                (if moves then "cannot move ".toList ++ quoted source ++
                    " to a subdirectory of itself, ".toList
                  else "cannot copy a directory, ".toList ++ quoted source ++ ", into itself, ".toList)
                  ++ quoted target) m
            else
              let files := m.files.copyAll place goal
              { m with files := if moves then files.removeAll place else files }
        | none, .error e =>
            complainAs name (cannot "cannot create directory" target (fileReason e)) m
  | .free _ => complainAs name (cannot "cannot stat" source "No such file or directory") m
  | .none e => complainAs name (cannot "cannot stat" source (fileReason e)) m

/-- The switches of the programs that copy and move. -/
def transferSwitches : SwitchTable :=
  .ofText "abdfHiLlnPpRrsTt:uvx" [("recursive", 'r'), ("force", 'f'), ("archive", 'a'), ("no-clobber", 'n'),
    ("target-directory", 't'), ("verbose", 'v')]

/-- Copies or moves one thing to a path as switches ask for it. -/
def transferOne (name : String) (moves : Bool) (given : Switches) (target : List Char) (m : Machine)
    (source : List Char) : Machine :=
  let deep := moves || given.has 'r' || given.has 'R' || given.has 'a'
  let exists_ := match standing m target with
    | .file _ _ => true
    | _ => false
  if given.has 'n' && exists_ then m
  else
    let after := transfer name moves deep source target m
    if given.has 'v' && after.buffers.length = m.buffers.length && after.status = m.status then
      after.write 1 ((if moves then "renamed ".toList else []) ++ quoted source ++
        " -> ".toList ++ quoted target ++ ['\n'])
    else after

/-- Copies or moves one thing into a directory. -/
def transferInto (name : String) (moves : Bool) (given : Switches) (target : List Char) (m : Machine)
    (source : List Char) : Machine :=
  transferOne name moves given (within target source) m source

/-- A program that copies or moves. -/
def transferring (name : String) (moves : Bool) : Builtin :=
  withSwitches name transferSwitches fun given m =>
    let m := m.withStatus 0
    match given.value? 't', given.operands with
    | _, [] => missingOperand name "missing file operand" m
    | some target, sources => sources.foldl (transferInto name moves given target) m
    | none, [source] =>
        runTool (fun _ => .advising name 1
          ("missing destination file operand after ".toList ++ quoted source)) [] m
    | none, operands =>
        let sources := operands.dropLast
        let target := operands.getLastD []
        match standing m target, sources with
        | .directory _, sources =>
            if given.has 'T' then sources.foldl (transferOne name moves given target) m
            else sources.foldl (transferInto name moves given target) m
        | _, [source] => transferOne name moves given target m source
        | .none e, _ =>
            complainAs name ("target ".toList ++ quoted target ++ (": " ++ fileReason e).toList) m
        | .free _, _ =>
            complainAs name ("target ".toList ++ quoted target ++
              ": No such file or directory".toList) m
        | .file _ _, _ =>
            complainAs name ("target ".toList ++ quoted target ++ ": Not a directory".toList) m

/-! ## Listing -/

/-- The names of what is in a directory, as switches ask for them. -/
def listed (given : Switches) (m : Machine) (place : FilePlace) : List (List Char) :=
  let all := given.has 'a' || given.has 'f'
  let names := m.entries place
  let names := if all then "." :: ".." :: names
    else if given.has 'A' then names
    else names.filter fun name => name.toList.head? != some '.'
  let mark := fun (name : String) =>
    if (given.has 'F' || given.has 'p') &&
        (name == "." || name == ".." || m.files.isDirectory (place ++ [name])) then "/" else ""
  let shown := names.map fun name => Machine.inside (name ++ mark name)
  if given.has 'r' then shown.reverse else shown

/-- The program that lists files. -/
def listFiles : Builtin :=
  withSwitches "ls" (.ofText "1aACdFfhiklnpqrRsStuUvwxX" [("all", 'a'), ("almost-all", 'A'),
    ("directory", 'd'), ("classify", 'F'), ("reverse", 'r')]) fun given m =>
      let operands := if given.operands.isEmpty then [['.']] else given.operands
      let operands := operands.mergeSort fun a b => decide (String.ofList a ≤ String.ofList b)
      let operands := if given.has 'r' then operands.reverse else operands
      let found := operands.map fun path => (path, standing m path)
      let missing := found.filterMap fun (path, standing) =>
        match standing with
        | .free _ => some (cannot "ls: cannot access" path "No such file or directory")
        | .none e => some (cannot "ls: cannot access" path (fileReason e))
        | _ => none
      let files := found.filterMap fun (path, standing) =>
        match standing with
        | .file _ _ => some path
        | .directory _ =>
            if given.has 'd' then
              some (if given.has 'F' || given.has 'p' then path ++ ['/'] else path)
            else none
        | _ => none
      let directories := found.filterMap fun (path, standing) =>
        match standing with
        | .directory place => if given.has 'd' then none else some (path, place)
        | _ => none
      let headed := found.length > 1
      let blocks := (if files.isEmpty then [] else [textOfLines files]) ++
        directories.map fun (path, place) =>
          (if headed then path ++ [':', '\n'] else []) ++ textOfLines (listed given m place)
      let m := missing.foldl Machine.warn m
      (m.write 1 (blocks.intersperse ['\n']).flatten).withStatus (if missing.isEmpty then 0 else 2)

/-! ## Tools that write files -/

/-- A tool whose output goes to a file if its arguments say so. -/
def writingTool (name : String) (table : SwitchTable) (tool : ToolCall → ToolAnswer)
    (target : Switches → Option (List Char)) : Builtin := fun arguments m =>
  match table.read false arguments with
  | .error _ => runTool tool arguments m
  | .ok given =>
      match target given with
      | none => runTool tool arguments m
      | some path =>
          let answer := tool ⟨arguments, m.input, m.inputIsFile, m.readFile⟩
          let m := if answer.usedInput then m.leave [] else m
          match m.placeFor path with
          | .ok place =>
              let files :=
                if answer.status = 0 then m.files.write place (Machine.bytesOf answer.output)
                else m.files
              ({ m with files := files }.write 2 answer.errors).withStatus answer.status
          | .error e =>
              (m.warn ((name ++ ": open failed: ").toList ++ path ++
                (": " ++ fileReason e).toList)).withStatus 2

/-! ## Permissions -/

def changedMode (m : Machine) (mode : List Char) (bits : Nat) : Option Nat :=
  if !mode.isEmpty && mode.all fun c => '0' ≤ c && c ≤ '7' then some (ofDigits 8 mode % 4096)
  else Builtin.applyMode (0o777 - m.scope.mask) mode bits

/-- The program that changes permissions. -/
def changeModes : Builtin := fun arguments m =>
  let isMode := fun (a : List Char) => match a with
    | '-' :: c :: _ => "rwxXst".toList.contains c
    | _ => false
  let (switches, operands) := arguments.partition fun a => a.head? == some '-' && !isMode a
  match (SwitchTable.ofText "cfvR" [("recursive", 'R'), ("verbose", 'v')]).read false switches with
  | .error fault => runTool (fun _ => .advising "chmod" 1 fault.message) [] m
  | .ok _ =>
      match operands with
      | [] => missingOperand "chmod" "missing operand" m
      | [mode] =>
          runTool (fun _ => .advising "chmod" 1 ("missing operand after ".toList ++ quoted mode)) [] m
      | mode :: paths =>
          if (changedMode m mode 0o644).isNone then
            runTool (fun _ => .advising "chmod" 1 ("invalid mode: ".toList ++ quoted mode)) [] m
          else
            paths.foldl (fun m path =>
              match standing m path with
              | .file place _ =>
                  let mode := (changedMode m mode (m.modeOf place)).getD 0o644
                  { m with modes := (place, mode) :: m.modes.filter fun entry => entry.1 != place }
              | .directory _ => m
              | .free _ => complainAs "chmod" (cannot "cannot access" path (fileReason .notFound)) m
              | .none e => complainAs "chmod" (cannot "cannot access" path (fileReason e)) m)
              (m.withStatus 0)

/-- The programs that keep files. -/
def filePrograms : List (String × Builtin) := [
  ("tee", copyInput), ("touch", makeFiles), ("rm", removeFiles), ("mkdir", makeDirectories),
  ("rmdir", removeDirectories), ("cp", transferring "cp" false), ("mv", transferring "mv" true),
  ("ls", listFiles), ("chmod", changeModes),
  ("sort", writingTool "sort" sortSwitches sortTool (·.value? 'o')),
  ("uniq", writingTool "uniq" uniqueSwitches uniqueTool fun given =>
    (given.operands[1]?).filter (· != ['-']))]

end CodeBlock.Shell
