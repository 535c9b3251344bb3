import CodeBlock.Execution
import CodeBlock.Shell.Run

set_option autoImplicit false

/-! # The shell as an interpreter

A call is answered by a shell that runs the command of the call. What it prints is captured: its output,
then its errors on a line of their own, each with replacement characters for bytes that are no text. -/

namespace CodeBlock.Shell

/-- How deep commands may be nested. -/
def nestingLimit : Nat := 10000

/-- How many microseconds it takes to start a shell. -/
def startingTime : Nat := 500

/-- The process number of a shell that is started from outside. -/
def firstProcess : Nat := 1000

/-- A shell that has just been started, with nothing to read. -/
def Machine.start (files : Files) (environment : Environment) (milliseconds : Option Nat) : Machine :=
  let given := (environment.vars.filter fun (name, _) => isName name.toList).map
    fun (name, value) => (name, Machine.inside value)
  let scope := Scope.start given files.working "/bin/sh".toList [] firstProcess (firstProcess - 1)
  { scope := { scope with descriptors := [(0, .nothing), (1, .buffer 1), (2, .buffer 2)] }
    status := 0
    substituted := 0
    flow := .onward
    line := 1
    command := []
    isTested := false
    inPlace := false
    pending := []
    files := files
    modes := []
    buffers := [(1, []), (2, [])]
    fileBuffers := []
    processes := firstProcess
    clock := startingTime
    busyUntil := 0
    deadline := milliseconds.map (1000 * ·) }

/-- A shell that has run the text of a command to its end. -/
def Machine.finish (command : List Char) (m : Machine) : Machine :=
  let run := Command.run nestingLimit
  let m := runEnd run (runText run command m)
  let late := m.deadline.any (decide <| · < max m.clock m.busyUntil)
  if late then m.expire else m

/-- What is captured of an output and of errors: both, and each on lines of its own. -/
def capturedText (output errors : List Char) : List Char :=
  if errors.isEmpty then output
  else if output.isEmpty || output.getLast? == some '\n' then output ++ errors
  else output ++ '\n' :: errors

/-- Runs a command in a shell, and not for longer than some milliseconds. -/
def runCommand (files : Files) (environment : Environment) (milliseconds : Option Nat)
    (command : String) : Except Fault Captured :=
  if command.toList.contains '\x00' then
    .error (.notStarted command "nul byte found in provided data")
  else
    let m := (Machine.start files environment milliseconds).finish (Machine.inside command)
    let text := fun (number : Nat) => Text.ofBytesLenient (Machine.bytesOf (m.contents number))
    let captured := String.ofList (capturedText (text 1) (text 2))
    match m.flow with
    | .expired => .error (.outOfTime ((milliseconds.getD 0) / 1000))
    | .killed _ _ => .ok ⟨captured, none⟩
    | _ => .ok ⟨captured, some m.status⟩

/-- The interpreter that runs each call in a shell, which finds the script among the files. -/
def interpreter (files : Files) (milliseconds : Option Nat) : Interpreter := fun call =>
  let files := match files.locate call.path with
    | .ok place => files.write place (Text.toBytes call.script.toList)
    | .error _ => files
  runCommand files call.environment milliseconds call.command

/-- The longest time that the settings allow, in milliseconds. -/
def timeLimit (settings : Settings) : Option Nat := settings.timeout?.map (1000 * ·)

end CodeBlock.Shell
