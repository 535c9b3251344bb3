import CodeBlock.Shell.Expansion
import CodeBlock.Shell.Reader
import CodeBlock.Shell.Signal

set_option autoImplicit false

/-! # Running texts

How a command is run is left open here: given any way of running commands, a text is run line by line,
in the shell itself, in a copy of it, or in a shell of its own. -/

namespace CodeBlock.Shell

/-- A way of running a command. -/
abbrev Runner := Command → Machine → Machine

/-- How often a loop may go round. -/
def roundLimit : Nat := 10000000

namespace Machine

/-! ## Shells inside a shell -/

/-- Stops the run for good. -/
def expire (m : Machine) : Machine := { m with flow := .expired }

/-- Runs something whose failure is looked at. -/
def tested (m : Machine) (f : Machine → Machine) : Machine :=
  { f { m with isTested := true } with isTested := m.isTested }

def inLoop (m : Machine) (f : Machine → Machine) : Machine :=
  let after := f { m with scope.loops := m.scope.loops + 1 }
  { after with scope.loops := m.scope.loops }

/-- Ends a shell whose failures end it, if the last command failed. -/
def checked (m : Machine) : Machine :=
  if m.isOn 'e' && !m.isTested && m.status != 0 && !m.isGivenUp then { m with flow := .exit } else m

/-- With a descriptor that leads somewhere. -/
def connect (m : Machine) (descriptor : Nat) (stream : Stream) : Machine :=
  { m with
    scope.descriptors :=
      (descriptor, stream) :: m.scope.descriptors.filter fun (n, _) => n != descriptor }

/-- Without a descriptor. -/
def disconnect (m : Machine) (descriptor : Nat) : Machine :=
  { m with scope.descriptors := m.scope.descriptors.filter fun (n, _) => n != descriptor }

/-- Whether a process is the one that is run, and not just what its copies take themselves for. -/
def isSelf (m : Machine) (process : Nat) : Bool := process == m.scope.process && !m.scope.isCopy

/-- A signal reaches a process: the one that is run, or one that waits for it. What a trap is set for is
    answered later. -/
def receive (process : Nat) (signal : Signal) (m : Machine) : Machine :=
  let later := { m with
    pending := if m.pending.contains (process, signal) then m.pending
      else (process, signal) :: m.pending }
  if !m.isSelf process || (signal.canBeCaught && (m.scope.traps.lookup signal.name).isSome) then later
  else
    match signal.effect with
    | .ends => { m with flow := .killed process signal.number }
    | .stops => m.expire
    | .ignored => m

/-- Goes on after something that ran in a copy of the shell. -/
def rejoin (m after : Machine) : Machine :=
  let back := { after with
    scope := m.scope
    line := m.line
    command := m.command
    isTested := m.isTested
    inPlace := m.inPlace }
  match after.flow with
  | .killed _ _ => back
  | .expired => back
  | _ =>
      after.pending.foldr (fun signal m => m.receive signal.1 signal.2)
        { back with flow := .onward, pending := [] }

end Machine

/-- The state of a shell that has just been started by something in a scope. -/
def Scope.start (given : Variables) (working : FilePlace) (name : List Char)
    (arguments : List (List Char)) (process parent : Nat) : Scope :=
  let own : Variables := [("IFS", [' ', '\t', '\n']), ("OPTIND", ['1']),
    ("PPID", (toString parent).toList),
    ("PWD", Machine.inside (if working.isEmpty then "/" else String.join (working.map ("/" ++ ·))))]
  let missing : Variables := [
    ("PATH", "/usr/local/sbin:/usr/local/bin:/usr/sbin:/usr/bin:/sbin:/bin".toList),
    ("PS1", ['#', ' ']), ("PS2", ['>', ' ']), ("PS4", ['+', ' '])].filter fun (name, _) =>
      (Table.get? name given).isNone
  { vars := (own ++ missing).foldl (fun table (name, value) => Table.put name value table) given
    exported := (given.map (·.1)).filter (· != "PWD") ++ ["PWD"]
    constants := []
    functions := []
    aliases := []
    arguments := arguments
    name := name
    process := process
    ancestors := []
    isCopy := false
    descriptors := []
    working := working
    mask := 0o022
    traps := []
    options := []
    hidden := none
    loops := 0
    calls := 0
    optionIndex := 1
    optionOffset := none
    jobs := []
    found := []
    interrupted := none }

section

variable (run : Runner)

/-! ## Texts -/

/-- Runs the lines of a text; `depth` bounds how deep its commands are nested, `fuel` the number of
    lines. -/
def runLines (depth : Nat) : Nat → Source → Machine → Machine
  | 0, _, m => m
  | fuel + 1, source, m =>
      if m.goesOn then
        match nextLine depth { source with aliases := m.scope.aliases } with
        | .error failure => { m with line := failure.line }.abort failure.cause.message.toList
        | .ok none => m
        | .ok (some (command, source)) => runLines depth fuel source (run command m)
      else m

/-- Whether a text holds no command, as far as blanks and comments are concerned. -/
def isBlankText : Nat → List Char → Bool
  | 0, _ => true
  | fuel + 1, s =>
      match s.dropWhile fun c => c == ' ' || c == '\t' || c == '\n' with
      | [] => true
      | '#' :: rest => isBlankText fuel (rest.dropWhile (· != '\n'))
      | _ => false

def runText (s : List Char) (m : Machine) : Machine :=
  let m := if isBlankText (s.length + 1) s then m.withStatus 0 else m
  runLines run (readingFuel s) (s.length + 1) (.ofText m.scope.aliases s) m

def runAction (action : List Char) (m : Machine) : Machine :=
  let started := { m with
    scope.interrupted := m.scope.interrupted.or (some m.status)
    isTested := false }
  let after := started.named [] (runText run action)
  { after with scope.interrupted := m.scope.interrupted, isTested := m.isTested }

/-- Answers the signals that traps are set for, the ones of the lowest numbers first. -/
def answerSignals (m : Machine) : Machine :=
  if m.pending.isEmpty then m
  else
    let (own, others) := m.pending.partition fun (process, _) => m.isSelf process
    let ordered := own.mergeSort fun a b => decide (a.2.number ≤ b.2.number)
    ordered.foldl (fun m (process, signal) =>
      if m.goesOn then
        let after := runAction run ((m.scope.traps.lookup signal.name).getD []) m
        if after.goesOn then after.withStatus m.status else after
      else { m with pending := (process, signal) :: m.pending }) { m with pending := others }

/-- What a shell has to do at its end. -/
def runEnd (m : Machine) : Machine :=
  match m.flow, m.scope.traps.lookup "EXIT" with
  | .killed _ _, _ => m
  | .expired, _ => m
  | _, none => m
  | _, some action =>
      let after := runAction run action
        { m with flow := .onward, scope.traps := m.scope.traps.filter (·.1 != "EXIT") }
      if after.isGivenUp then after else after.withStatus m.status

/-- Runs something in a copy of the shell. -/
def runApart (f : Machine → Machine) (m : Machine) : Machine :=
  m.rejoin (runEnd run (f { m with
    scope.traps := m.scope.traps.filter fun (_, action) => action.isEmpty
    scope.jobs := []
    scope.interrupted := none
    scope.isCopy := true }))

/-- What a command prints. Its status is kept apart. -/
def substitute : Substitution := fun body m =>
  match body with
  | .nothing => ([], m)
  | body =>
      let (number, inner) := m.openBuffer []
      let after := runApart run (fun inner =>
        run body ({ inner with isTested := false }.connect 1 (.buffer number))) inner
      { after with status := m.status, substituted := after.status }.closeBuffer number

/-- Runs something in a shell of its own, which gets nothing but the variables that programs get. -/
def runShell (name : List Char) (arguments : List (List Char)) (options : List Char)
    (f : Machine → Machine) (m : Machine) : Machine :=
  let process := m.processes + 1
  let given := m.scope.vars.filter fun (name, _) => m.scope.exported.contains name
  let fresh := Scope.start given m.scope.working name arguments process m.scope.process
  let scope := { fresh with
    ancestors := m.scope.process :: m.scope.ancestors
    descriptors := m.scope.descriptors
    mask := m.scope.mask
    traps := m.scope.traps.filter fun (_, action) => action.isEmpty
    options := options }
  let inner := { m with
    processes := process
    scope := scope
    status := 0
    line := 1
    command := []
    isTested := false
    inPlace := false }
  let after := runEnd run (f inner)
  match after.flow with
  | .killed ended number =>
      if ended = process then
        if m.inPlace then { m.rejoin after with flow := .killed m.scope.process number }
        else
          let report := ((Signal.all.find? fun s => s.number == number).map (·.report)).getD ""
          let m := { m.rejoin { after with flow := .onward } with status := 128 + number }
          if report.isEmpty then m else m.warn report.toList
      else m.rejoin after
  | _ => m.rejoin after

end

end CodeBlock.Shell
