import CodeBlock.Files
import CodeBlock.Shell.Command
import CodeBlock.Shell.Signal
import CodeBlock.Table

set_option autoImplicit false

/-! # The state of a shell

A shell has variables, functions, arguments and descriptors of its own; what it starts gets a copy.
Files, the texts that run through descriptors, and the time are there for all. Time passes with every
command, and a shell that reaches its deadline is stopped. -/

namespace CodeBlock.Shell

/-- Where a descriptor leads. -/
inductive Stream where
  /-- What is written is lost, and there is nothing to read. -/
  | nothing
  /-- A text that is written at its end and read from its start. -/
  | buffer (number : Nat)
  /-- The end of a file. -/
  | file (place : FilePlace)
  deriving DecidableEq, Repr

/-- How a shell goes on after a command. -/
inductive Flow where
  | onward
  | exit
  /-- An error ended what was run; where it is not caught, it ends the shell. -/
  | fault
  | leaveCall
  /-- Leaves so many loops. -/
  | leaveLoops (loops : Nat)
  /-- Leaves all but the last of so many loops, and goes on with that one. -/
  | nextRound (loops : Nat)
  /-- A signal ended the process of the given number. -/
  | killed (process signal : Nat)
  /-- The deadline was reached. -/
  | expired
  deriving DecidableEq, Repr

/-- What something local was before. -/
inductive Hidden where
  | variable (name : String) (value : Option (List Char)) (isExported : Bool)
  | options (letters : List Char)
  deriving Repr

/-- A process in the background. -/
structure Job where
  process : Nat
  status : Nat
  /-- When it ends. -/
  ends : Nat
  /-- What is said when it is waited for. -/
  report : String
  deriving Repr

/-- What a shell has for itself. -/
structure Scope where
  vars : Variables
  /-- The variables that programs get to see. -/
  exported : List String
  /-- The variables that stay as they are. -/
  constants : List String
  /-- The functions, each with the line in which its body starts. -/
  functions : List (String × Nat × Command)
  aliases : List (List Char × List Char)
  arguments : List (List Char)
  /-- What the shell is called. -/
  name : List Char
  process : Nat
  /-- The processes that wait for this one. -/
  ancestors : List Nat
  /-- Whether the process is a copy of the one that has the number. -/
  isCopy : Bool
  descriptors : List (Nat × Stream)
  working : FilePlace
  /-- The permissions that new files do not get. -/
  mask : Nat
  /-- What to do at signals, and at the end under the name `EXIT`. -/
  traps : List (String × List Char)
  /-- The letters of the options that are on. -/
  options : List Char
  /-- In a function, what its local variables were before. -/
  hidden : Option (List Hidden)
  /-- The number of loops around the command that is run. -/
  loops : Nat
  /-- The number of calls of functions that the command is in. -/
  calls : Nat
  /-- The argument that is the next one to be looked at for options, and how much of it has been. -/
  optionIndex : Nat
  optionOffset : Option Nat
  /-- The processes in the background, the last one first. -/
  jobs : List Job
  /-- The programs that have been found, with their paths. -/
  found : List (List Char × List Char)
  /-- The status that the shell had when the action of a trap was started. -/
  interrupted : Option Nat

/-- A shell and what is around it. -/
structure Machine where
  scope : Scope
  status : Nat
  /-- The status of the last command whose output was used in the command that is run. -/
  substituted : Nat
  flow : Flow
  /-- The line of the command that is run. -/
  line : Nat
  /-- The command of the shell that is run, or the file that it reads. -/
  command : List Char
  /-- Whether a failure of the command that is run is looked at. -/
  isTested : Bool
  /-- Whether the program that is run takes the place of the shell. -/
  inPlace : Bool
  /-- The signals that have been sent to processes but not been answered yet. -/
  pending : List (Nat × Signal)
  files : Files
  /-- The permissions of files that have been given others than new files get. -/
  modes : List (FilePlace × Nat)
  /-- The texts that run through descriptors, each in pieces with the last one first. -/
  buffers : List (Nat × List (List Char))
  /-- The buffers that hold what a file does. -/
  fileBuffers : List Nat
  /-- The last number that a process got. -/
  processes : Nat
  /-- The time in microseconds, and when the last process in the background ends. -/
  clock : Nat
  busyUntil : Nat
  deadline : Option Nat

namespace Machine

/-! ## Time -/

/-- Lets some microseconds pass. -/
def wait (m : Machine) (microseconds : Nat) : Machine :=
  let clock := m.clock + microseconds
  match m.deadline with
  | some deadline =>
      if deadline < clock then { m with clock := clock, flow := .expired }
      else { m with clock := clock }
  | none => { m with clock := clock }

/-- Whether the next command is to be run. -/
def goesOn (m : Machine) : Bool := m.flow == .onward

/-- Whether what is run is given up, which nothing but the end of the shell or an error does. -/
def isGivenUp (m : Machine) : Bool :=
  match m.flow with
  | .exit | .fault | .killed _ _ | .expired => true
  | .onward | .leaveCall | .leaveLoops _ | .nextRound _ => false

def withStatus (m : Machine) (status : Nat) : Machine := { m with status := status }

/-- Whether an option is on. -/
def isOn (m : Machine) (option : Char) : Bool := m.scope.options.contains option

/-- With an option on or off. -/
def turn (m : Machine) (option : Char) (on : Bool) : Machine :=
  let others := m.scope.options.filter (· != option)
  { m with scope.options := if on then option :: others else others }

/-! ## Variables -/

/-- The text of a variable. -/
def get? (m : Machine) (name : String) : Option (List Char) := Table.get? name m.scope.vars

/-- With a variable set, whatever it was. -/
def set (m : Machine) (name : String) (value : List Char) : Machine :=
  { m with scope.vars := Table.put name value m.scope.vars }

/-- Without a variable. -/
def unset (m : Machine) (name : String) : Machine :=
  { m with
    scope.vars := Table.erase name m.scope.vars
    scope.exported := m.scope.exported.filter (· != name) }

/-- With a variable that programs get to see. -/
def publish (m : Machine) (name : String) : Machine :=
  if m.scope.exported.contains name then m
  else { m with scope.exported := name :: m.scope.exported }

/-- The characters that separate fields. -/
def separators (m : Machine) : List Char := (m.get? "IFS").getD [' ', '\t', '\n']

/-! ## Texts that run through descriptors -/

/-- What a buffer holds. -/
def contents (m : Machine) (number : Nat) : List Char :=
  match m.buffers.lookup number with
  | some pieces => pieces.reverse.flatten
  | none => []

/-- The buffers with a piece at the end of one of them. -/
def append (number : Nat) (piece : List Char) :
    List (Nat × List (List Char)) → List (Nat × List (List Char))
  | [] => []
  | (n, pieces) :: rest =>
      if n = number then (n, piece :: pieces) :: rest else (n, pieces) :: append number piece rest

/-- With a buffer holding something else. -/
def replace (m : Machine) (number : Nat) (text : List Char) : Machine :=
  { m with
    buffers := m.buffers.map fun (n, pieces) => if n = number then (n, [text]) else (n, pieces) }

/-- With a new buffer, and its number. -/
def openBuffer (m : Machine) (text : List Char) : Nat × Machine :=
  let number := (m.buffers.map (·.1)).foldl max 0 + 1
  (number, { m with buffers := (number, [text]) :: m.buffers })

/-- Without a buffer, and what it held. -/
def closeBuffer (m : Machine) (number : Nat) : List Char × Machine :=
  (m.contents number, { m with buffers := m.buffers.filter fun (n, _) => n != number })

def bytesOf (s : List Char) : List UInt8 := s.map fun c => UInt8.ofNat c.toNat

/-- The shell's text of some bytes. -/
def textOf (bytes : List UInt8) : List Char := bytes.map fun b => Char.ofNat b.toNat

/-- A file name or another text outside the shell, made of the bytes of a text of the shell. -/
def outside (s : List Char) : String := String.ofList (Text.ofBytesLenient (bytesOf s))

/-- The shell's text of a text outside the shell. -/
def inside (s : String) : List Char := textOf (Text.toBytes s.toList)

/-- Writes a text to a stream, if there is one. -/
def writeTo (m : Machine) (stream : Option Stream) (text : List Char) : Machine :=
  if text.isEmpty then m
  else
    match stream with
    | some (.buffer number) => { m with buffers := append number text m.buffers }
    | some (.file place) =>
        { m with files := m.files.write place (((m.files.content? place).getD []) ++ bytesOf text) }
    | _ => m

/-- Writes a text to a descriptor; a closed one is written in vain. -/
def write (m : Machine) (descriptor : Nat) (text : List Char) : Machine :=
  m.writeTo (m.scope.descriptors.lookup descriptor) text

/-- Whether a descriptor is not closed. -/
def isOpen (m : Machine) (descriptor : Nat) : Bool :=
  (m.scope.descriptors.lookup descriptor).isSome

/-- What can be read from the standard input. -/
def input (m : Machine) : List Char :=
  match m.scope.descriptors.lookup 0 with
  | some (.buffer number) => m.contents number
  | _ => []

def inputIsFile (m : Machine) : Bool :=
  match m.scope.descriptors.lookup 0 with
  | some (.buffer number) => m.fileBuffers.contains number
  | some (.file _) => true
  | _ => false

/-- With the rest of what can be read from the standard input. -/
def leave (m : Machine) (rest : List Char) : Machine :=
  match m.scope.descriptors.lookup 0 with
  | some (.buffer number) => m.replace number rest
  | _ => m

/-- Writes a line to the standard error. -/
def warn (m : Machine) (text : List Char) : Machine := m.write 2 (text ++ ['\n'])

/-- Writes a message that starts with the name of the shell, the line and the command. -/
def complain (m : Machine) (text : List Char) : Machine :=
  let command := if m.command.isEmpty then [] else m.command ++ ": ".toList
  m.warn (m.scope.name ++ (": " ++ toString m.line ++ ": ").toList ++ command ++ text)

/-- Writes a message and gives a status. -/
def fail (m : Machine) (status : Nat) (text : List Char) : Machine :=
  (m.complain text).withStatus status

/-- Writes a message and stops what is run. -/
def abort (m : Machine) (text : List Char) : Machine := { m.fail 2 text with flow := .fault }

/-- Runs a command of the shell, whose name is in messages. -/
def named (m : Machine) (command : List Char) (f : Machine → Machine) : Machine :=
  { f { m with command := command } with command := m.command }

/-- With a variable set, if it may be. -/
def assign (m : Machine) (name : String) (value : List Char) : Machine :=
  if !isName name.toList then m.abort (name.toList ++ ": bad variable name".toList)
  else if m.scope.constants.contains name then m.abort (name.toList ++ ": is read only".toList)
  else
    let m := if m.isOn 'a' then m.publish name else m
    let m := m.set name value
    match name with
    | "PATH" => { m with scope.found := [] }
    | "OPTIND" =>
        if value.isEmpty || !value.all Char.isDigit then
          m.abort ("Illegal number: ".toList ++ value)
        else
          { m with scope.optionIndex := max 1 (ofDigits 10 value), scope.optionOffset := none }
    | _ => m

/-! ## Files -/

/-- The files as paths of the shell lead through them. -/
def tree (m : Machine) : Files := { m.files with working := m.scope.working }

/-- The names of what is in a directory, in order. -/
def entries (m : Machine) (place : FilePlace) : List String :=
  let under := fun (p : FilePlace) =>
    if place.isPrefixOf p then (p.drop place.length).head? else none
  let names := (m.files.files.filterMap fun entry => under entry.1) ++
    m.files.directories.filterMap under
  (names.eraseDups).mergeSort fun a b => decide (a ≤ b)

/-- The permissions of a file. -/
def modeOf (m : Machine) (place : FilePlace) : Nat := (m.modes.lookup place).getD 0o644

/-- Whether a file may be run. -/
def isRunnable (m : Machine) (place : FilePlace) : Bool :=
  (m.files.content? place).isSome && m.modeOf place &&& 0o111 != 0

/-- How many bytes are read from the file that has zeros without end. -/
def zerosGiven : Nat := 1048576

/-- What a file holds, as a text of the shell. -/
def readFile (m : Machine) (path : List Char) : Except FileError (List Char) :=
  if path = "/dev/null".toList then .ok []
  else if path = "/dev/zero".toList then .ok (List.replicate zerosGiven '\x00')
  else if path = "-".toList ∨ path = "/dev/stdin".toList then .ok m.input
  else (m.tree.read (outside path)).map textOf

/-- The place for a file that is to be written, or that it is a directory, or that its directory is
    not there. -/
def placeFor (m : Machine) (path : List Char) : Except FileError FilePlace := do
  let place ← m.tree.locate (outside path)
  if m.files.isDirectory place then .error .isDirectory
  else if m.files.isDirectory place.dropLast then .ok place
  else .error .notFound

end Machine

end CodeBlock.Shell
