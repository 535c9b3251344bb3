import CodeBlock.Files
import CodeBlock.Shell.Arithmetic
import CodeBlock.Shell.Switches

set_option autoImplicit false

/-! # Tools

Tools are programs that make a text of the texts they are given: what they read from files or from
their input, and their arguments. -/

namespace CodeBlock.Shell

/-- What a tool gives. -/
structure ToolAnswer where
  output : List Char
  errors : List Char
  status : Nat
  /-- Whether the input was read to its end. -/
  usedInput : Bool

/-- What a tool is given. -/
structure ToolCall where
  arguments : List (List Char)
  input : List Char
  /-- Whether the input is a file. -/
  inputIsFile : Bool
  /-- What a file holds. -/
  read : List Char → Except FileError (List Char)

namespace ToolAnswer

/-- Some output and nothing else. -/
def printing (text : List Char) : ToolAnswer := ⟨text, [], 0, false⟩

/-- A complaint and nothing else. -/
def refusing (status : Nat) (message : String) : ToolAnswer :=
  ⟨[], (message ++ "\n").toList, status, false⟩

def complaining (tool : String) (status : Nat) (message : List Char) : ToolAnswer :=
  ⟨[], (tool ++ ": ").toList ++ message ++ ['\n'], status, false⟩

/-- A complaint in the name of a tool, and how to learn more about it. -/
def advising (tool : String) (status : Nat) (message : List Char) : ToolAnswer :=
  complaining tool status
    (message ++ ("\nTry '" ++ tool ++ " --help' for more information.").toList)

end ToolAnswer

/-- The wording of an error with a file. -/
def fileReason : FileError → String
  | .notDirectory => "Not a directory"
  | .isDirectory => "Is a directory"
  | .nameTooLong => "File name too long"
  | _ => "No such file or directory"

/-! ## Lines -/

/-- The lines of a text without their ends; the last one may lack an end. -/
def linesOfText : List Char → List (List Char)
  | [] => []
  | c :: rest =>
      if c = '\n' then [] :: linesOfText rest
      else
        match linesOfText rest with
        | [] => [[c]]
        | line :: lines => (c :: line) :: lines

def textOfLines (lines : List (List Char)) : List Char := lines.flatMap (· ++ ['\n'])

/-- The lines of a text with their ends, which the last one may lack. -/
def wholeLines : List Char → List (List Char)
  | [] => []
  | c :: rest =>
      if c = '\n' then ['\n'] :: wholeLines rest
      else
        match wholeLines rest with
        | [] => [[c]]
        | line :: lines => (c :: line) :: lines

def splitEnd (line : List Char) : List Char × List Char :=
  if line.getLast? = some '\n' then (line.dropLast, ['\n']) else (line, [])

/-! ## Numbers -/

/-- The number that a text is. -/
def countOf? (s : List Char) : Option Nat :=
  if s.isEmpty || !s.all Char.isDigit then none else some (ofDigits 10 s)

/-- The number that a text is, which may end in a letter for a greater unit. -/
def amountOf? (s : List Char) : Option Nat :=
  let digits := s.takeWhile Char.isDigit
  let unit := match String.ofList (s.drop digits.length) with
    | "" => some 1
    | "b" => some 512
    | "kB" => some 1000
    | "k" => some 1024
    | "K" => some 1024
    | "KiB" => some 1024
    | "MB" => some 1000000
    | "M" => some 1048576
    | "m" => some 1048576
    | "MiB" => some 1048576
    | "G" => some 1073741824
    | _ => none
  if digits.isEmpty then none else unit.map (ofDigits 10 digits * ·)

/-- A text at the right of some columns. -/
def padLeft (width : Nat) (s : List Char) : List Char :=
  List.replicate (width - s.length) ' ' ++ s

/-- A text at the left of some columns. -/
def padRight (width : Nat) (s : List Char) : List Char :=
  s ++ List.replicate (width - s.length) ' '

/-- The digits of a number. -/
def decimal (n : Nat) : List Char := Nat.toDigits 10 n

def quoted (s : List Char) : List Char := '\'' :: s ++ ['\'']

/-! ## Reading -/

/-- What a tool reads from some files, or from its input if there are none, and the complaints about
    files that cannot be read. -/
structure Material where
  /-- The texts with the names of their files. -/
  texts : List (List Char × List Char)
  complaints : List (List Char)
  usedInput : Bool

/-- Reads what a tool works on; `complaint` words the complaint about a file. The input is there only
    for the first one that names it. -/
def ToolCall.material (call : ToolCall) (complaint : List Char → String → List Char)
    (names : List (List Char)) : Material :=
  if names.isEmpty then ⟨[([], call.input)], [], true⟩
  else
    let found := (names.zipIdx).map fun (name, i) =>
      (name,
        if name = ['-'] ∧ (names.take i).contains ['-'] then Except.ok [] else call.read name)
    { texts := found.filterMap fun (name, text) => text.toOption.map fun text => (name, text)
      complaints := found.filterMap fun (name, text) =>
        match text with
        | .ok _ => none
        | .error e => some (complaint name (fileReason e) ++ ['\n'])
      usedInput := names.contains ['-'] }

def ToolCall.onTexts (call : ToolCall) (complaint : List Char → String → List Char)
    (names : List (List Char)) (f : List (List Char × List Char) → List Char) : ToolAnswer :=
  let m := call.material complaint names
  ⟨f m.texts, m.complaints.flatten, if m.complaints.isEmpty then 0 else 1, m.usedInput⟩

/-- A complaint of the form `tool: file: reason`. -/
def complaintOf (tool : String) (file : List Char) (reason : String) : List Char :=
  (tool ++ ": ").toList ++ file ++ (": " ++ reason).toList

/-- A complaint of the form `tool: cannot open 'file' for reading: reason`; one about a directory is that
    it cannot be read. -/
def openingComplaint (tool : String) (file : List Char) (reason : String) : List Char :=
  if reason = "Is a directory" then
    (tool ++ ": error reading '").toList ++ file ++ ("': " ++ reason).toList
  else (tool ++ ": cannot open '").toList ++ file ++ ("' for reading: " ++ reason).toList

/-- Takes the arguments of a tool apart; `status` is that of a wrong switch. -/
def ToolCall.withSwitches (call : ToolCall) (tool : String) (status : Nat) (table : SwitchTable)
    (f : Switches → ToolAnswer) : ToolAnswer :=
  match table.read false call.arguments with
  | .ok given => f given
  | .error fault => .advising tool status fault.message

end CodeBlock.Shell
