import CodeBlock.Shell.Builtin.Basic
import CodeBlock.Shell.Signal

set_option autoImplicit false

/-! # Traps and processes in the background

Commands that say what is done at signals, and those that wait for processes and show them. -/

namespace CodeBlock.Shell.Builtin

/-! ## Traps -/

/-- The name under which the action for a signal, or for the end of the shell, is kept. -/
def trapKey? (s : List Char) : Option String :=
  if s = ['0'] ∨ String.ofList (s.map Char.toUpper) = "EXIT" then some "EXIT"
  else (Signal.ofText? s).map (·.name)

/-- The lines that show what is done at signals, in the order of their numbers. -/
def trapListing (m : Machine) : List Char :=
  ("EXIT" :: Signal.all.map (·.name)).flatMap fun key =>
    match m.scope.traps.lookup key with
    | some action => "trap -- ".toList ++ shown action ++ (" " ++ key ++ "\n").toList
    | none => []

/-- Says what is done at some signals. -/
def setTraps (action : Option (List Char)) : List (List Char) → Machine → Machine
  | [], m => m.withStatus 0
  | name :: names, m =>
      match trapKey? name with
      | none => (m.warn ("trap: ".toList ++ name ++ ": bad trap".toList)).withStatus 1
      | some key =>
          let others := m.scope.traps.filter fun entry => entry.1 != key
          let traps := match action with
            | some action => (key, action) :: others
            | none => others
          setTraps action names { m with scope.traps := traps }

/-- Says what is done at signals, or shows it. -/
def trap : Builtin := withOptions [] fun _ operands m =>
  match operands with
  | [] => print "trap" (trapListing m) m
  | [name] => setTraps none [name] m
  | action :: names =>
      if (number? action).any fun n => n < 65 then setTraps none (action :: names) m
      else setTraps (if action = ['-'] then none else some action) names m

/-! ## Processes in the background -/

def waitFor (job : Job) (m : Machine) : Machine :=
  let m := m.wait (job.ends - m.clock)
  let m := if job.report.isEmpty || !m.goesOn then m else m.warn job.report.toList
  m.withStatus job.status

def noJob (name : List Char) : List Char := "No such job: ".toList ++ name

/-- The job that a text with a percent sign names. -/
def namedJob? (m : Machine) (name : List Char) : Option Job :=
  match name with
  | ['%'] => m.scope.jobs.head?
  | ['%', '%'] => m.scope.jobs.head?
  | ['%', '+'] => m.scope.jobs.head?
  | ['%', '-'] => m.scope.jobs[1]?
  | '%' :: digits =>
      match number? digits with
      | some (n + 1) => m.scope.jobs.reverse[n]?
      | _ => none
  | _ => none

/-- Waits for processes in the background. -/
def wait : Builtin := withOptions [] fun _ operands m =>
  if operands.isEmpty then (m.wait (m.busyUntil - m.clock)).withStatus 0
  else
    operands.foldl (fun m operand =>
      if !m.goesOn then m
      else if operand.head? = some '%' then
        match namedJob? m operand with
        | some job => waitFor job m
        | none => m.abort (noJob operand)
      else
        withNumber operand m fun process m =>
          match m.scope.jobs.find? fun job => job.process == process with
          | some job => waitFor job m
          | none => m.withStatus 127) (m.withStatus 127)

def jobState (m : Machine) (job : Job) : List Char :=
  if m.clock < job.ends then "Running".toList
  else if !job.report.isEmpty then job.report.toList
  else if job.status = 0 then "Done".toList
  else ("Done(" ++ toString job.status ++ ")").toList

/-- Shows the processes in the background, and forgets those that have ended. -/
def jobs : Builtin := withOptions [('l', false), ('p', false)] fun _ _ m =>
  let numbered := m.scope.jobs.zipIdx
  let count := m.scope.jobs.length
  let lines := (numbered.reverse).flatMap fun (job, i) =>
    let sign := if i = 0 then '+' else if i = 1 then '-' else ' '
    let start := ("[" ++ toString (count - i) ++ "] ").toList ++ sign :: ' ' :: jobState m job
    start ++ List.replicate (33 - start.length) ' ' ++ ['\n']
  let m := print "jobs" lines m
  { m with scope.jobs := m.scope.jobs.filter fun job => decide (m.clock < job.ends) }

/-- Says that a job cannot be brought forward, or on its way. -/
def move : Builtin := withOptions [] fun _ operands m =>
  match operands with
  | [] =>
      if m.scope.jobs.isEmpty then m.abort "No current job".toList
      else m.abort "job (null) not created under job control".toList
  | name :: _ =>
      if (namedJob? m name).isSome then
        m.abort ("job ".toList ++ name ++ " not created under job control".toList)
      else m.abort (noJob name)

/-! ## Resources -/

/-- Shows how much time was used, which is not measured. -/
def times : Builtin := fun _ m =>
  print "times" (List.replicate 2 "0m0.000000s 0m0.000000s\n".toList).flatten m

/-- Shows limits, of which there are none. -/
def limits : Builtin :=
  withOptions ("HSatfdscmlpnvwr".toList.map fun c => (c, false)) fun options operands m =>
    let isNone := options.any fun (letter, _) => letter == 'c'
    match operands with
    | [] => print "ulimit" (if isNone then "0\n".toList else "unlimited\n".toList) m
    | [limit] =>
        if (number? limit).isSome || limit = "unlimited".toList then m.withStatus 0
        else m.abort "bad number".toList
    | _ => m.abort "too many arguments".toList

end CodeBlock.Shell.Builtin
