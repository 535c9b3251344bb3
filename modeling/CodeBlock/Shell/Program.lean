import CodeBlock.Shell.Builtin
import CodeBlock.Shell.Editor
import CodeBlock.Shell.FilePrograms
import CodeBlock.Shell.Records
import CodeBlock.Shell.Redirect
import CodeBlock.Shell.Starters

set_option autoImplicit false

/-! # Programs

A program is found by its name in the directories of the search list, or by its path. It gets the
arguments, the descriptors and the variables that programs get to see. -/

namespace CodeBlock.Shell

section

variable (run : Runner)

/-! ## Signals -/

/-- Sends a signal to a process in the background. -/
def signalJob (signal : Signal) (job : Job) (m : Machine) : Machine :=
  if m.clock < job.ends ∧ signal.effect = .ends then
    let ended := { job with ends := m.clock, status := 128 + signal.number, report := signal.report }
    let jobs := m.scope.jobs.map fun other => if other.process = job.process then ended else other
    { m with
      scope.jobs := jobs
      busyUntil := (jobs.map (·.ends)).foldl max 0 }
  else m

/-- Sends a signal, or just looks whether that could be done, to the processes of the given numbers or
    jobs. -/
def sendSignal (signal : Option Signal) : List (List Char) → Machine → Machine
  | [], m => m
  | name :: others, m =>
      if !m.goesOn then m
      else if name.head? = some '%' then
        match Builtin.namedJob? m name with
        | some job => sendSignal signal others (signal.elim m (signalJob · job m))
        | none => m.abort (Builtin.noJob name)
      else
        let digits := if name.head? = some '-' then name.drop 1 else name
        Builtin.withNumber digits m fun process m =>
          if process = m.scope.process || m.scope.ancestors.contains process then
            sendSignal signal others (signal.elim m (m.receive process ·))
          else
            match m.scope.jobs.find? fun job => job.process == process with
            | some job => sendSignal signal others (signal.elim m (signalJob · job m))
            | none => sendSignal signal others (m.fail 1 "No such process\n".toList)

/-- How the command that sends signals is used. -/
def killUsage : String :=
  "Usage: kill [-s sigspec | -signum | -sigspec] [pid | job]... or\nkill -l [exitstatus]"

/-- The lines of the signals' names. -/
def signalListing : List Char :=
  ("0" :: Signal.all.map (·.name)).flatMap fun name => (name ++ "\n").toList

/-- Prints the name of the signal of a number, or of a status that tells of it. -/
def showSignal (argument : List Char) (m : Machine) : Machine :=
  Builtin.withNumber argument m fun n m =>
    match Signal.ofNumber? (if 128 < n then n - 128 else n) with
    | some signal => Builtin.print "kill" (signal.name ++ "\n").toList m
    | none => m.abort ("invalid signal number or exit status: ".toList ++ argument)

/-- The command that sends signals. -/
def kill : Builtin := fun arguments m =>
  let usage := m.abort killUsage.toList
  let send := fun (signal : Option Signal) (processes : List (List Char)) =>
    if processes.isEmpty then usage else sendSignal signal processes (m.withStatus 0)
  let terminate := Signal.ofNumber? 15
  match arguments with
  | ('-' :: c :: name) :: processes =>
      if c :: name = ['0'] then send none processes
      else
        match Signal.ofText? (c :: name) with
        | some signal => send (some signal) processes
        | none =>
            Builtin.withOptions [('l', false), ('s', true)] (fun options operands m =>
              let isList := options.any fun (letter, _) => letter == 'l'
              match isList, options.getLast?, operands with
              | true, _, [] => Builtin.print "kill" signalListing m
              | true, _, argument :: _ => showSignal argument m
              | false, some (_, name), operands =>
                  if name = ['0'] then send none operands
                  else
                    match Signal.ofText? name with
                    | some signal => send (some signal) operands
                    | none => m.abort ("invalid signal number or name: ".toList ++ name)
              | false, none, operands => send terminate operands) arguments m
  | processes => send terminate processes

/-! ## Programs of their own -/

/-- The program that waits. -/
def sleep : Builtin := fun arguments m =>
  let advice := "Try 'sleep --help' for more information.".toList
  match (SwitchTable.ofText "" []).read false arguments with
  | .error fault => ((m.warn ("sleep: ".toList ++ fault.message)).warn advice).withStatus 1
  | .ok given =>
      match given.operands.find? fun a => a != "infinity".toList && (microseconds? a).isNone with
      | some wrong =>
          ((m.warn ("sleep: invalid time interval '".toList ++ wrong ++ ['\''])).warn advice).withStatus 1
      | none =>
          if given.operands.isEmpty then
            ((m.warn "sleep: missing operand".toList).warn advice).withStatus 1
          else if given.operands.contains "infinity".toList then m.expire
          else (m.wait ((given.operands.filterMap microseconds?).foldl (· + ·) 0)).withStatus 0

/-- The program that prints a line without end; one that is not read by another program never ends. -/
def affirm : Builtin := fun arguments m =>
  let line := (if arguments.isEmpty then ['y'] else (arguments.intersperse [' ']).flatten) ++ ['\n']
  match m.scope.descriptors.lookup 1 with
  | some (.buffer number) =>
      if number ≤ 2 then m.expire
      else (m.write 1 (List.replicate 100000 line).flatten).withStatus 0
  | _ => m.expire

/-- The programs that are neither shells nor tools and start no other program. -/
def programs : List (String × Builtin) :=
  [("sleep", sleep), ("yes", affirm), ("printenv", showVariables), ("sed", Editor.run),
    ("awk", Records.program run), ("mawk", Records.program run),
    ("true", fun _ m => m.withStatus 0), ("false", fun _ m => m.withStatus 1),
    ("printf", Builtin.printf), ("test", Builtin.test), ("[", Builtin.bracket),
    ("echo", fun arguments m => Builtin.print "echo" (plainlyEchoed arguments) m),
    ("pwd", fun _ m =>
      (m.write 1 (Machine.inside (directoryPath m.scope.working) ++ ['\n'])).withStatus 0),
    ("kill", kill)] ++ filePrograms

/-! ## Shells -/

/-- The options that a shell is started with, and what it runs. -/
structure Start where
  options : List Char
  isCommand : Bool
  rest : List (List Char)

/-- Takes the options of a shell off its arguments. -/
def Start.ofArguments : Nat → Start → Except (List Char) Start
  | 0, s => .ok s
  | fuel + 1, s =>
      match s.rest with
      | ['-'] :: rest => .ok { s with rest := rest }
      | ['-', '-'] :: rest => .ok { s with rest := rest }
      | ('-' :: letters) :: rest => do ofArguments fuel (← letterwise true letters { s with rest := rest })
      | ('+' :: letters) :: rest => do ofArguments fuel (← letterwise false letters { s with rest := rest })
      | _ => .ok s
where
  turned (on : Bool) (letter : Char) (s : Start) : Start :=
    let others := s.options.filter (· != letter)
    { s with options := if on then letter :: others else others }
  letterwise (on : Bool) : List Char → Start → Except (List Char) Start
    | [], s => .ok s
    | 'c' :: letters, s => letterwise on letters { s with isCommand := true }
    | 'l' :: letters, s => letterwise on letters s
    | 'o' :: letters, s =>
        match s.rest with
        | [] => letterwise on letters s
        | name :: rest =>
            match optionNames.lookup (String.ofList name) with
            | some letter =>
                letterwise on letters
                  (letter.elim { s with rest := rest } (turned on · { s with rest := rest }))
            | none => .error ("Illegal option -o ".toList ++ name)
    | letter :: letters, s =>
        if (optionNames.filterMap (·.2)).contains letter then letterwise on letters (turned on letter s)
        else .error ("Illegal option -".toList ++ [letter])

/-- Runs a shell as a program. -/
def runShellProgram (name : List Char) (arguments : List (List Char)) (m : Machine) : Machine :=
  let refuse := fun (message : List Char) => (m.warn (name ++ ": 0: ".toList ++ message)).withStatus 2
  match Start.ofArguments (arguments.length + 1) ⟨[], false, arguments⟩ with
  | .error message => refuse message
  | .ok start =>
      match start.isCommand, start.rest with
      | true, [] => refuse "-c requires an argument".toList
      | true, [text] => runShell run name [] start.options (runText run text) m
      | true, text :: own :: others => runShell run own others start.options (runText run text) m
      | false, rest =>
          if start.options.contains 's' || rest.isEmpty then
            let options := if start.options.contains 's' then start.options else 's' :: start.options
            runShell run name rest options (runText run m.input) (m.leave [])
          else
            match rest with
            | [] => m
            | path :: others =>
                match m.readFile path with
                | .ok text => runShell run path others start.options (runText run text) m
                | .error e =>
                    let reason := match e with
                      | .isDirectory => "Is a directory"
                      | _ => "No such file"
                    refuse ("cannot open ".toList ++ path ++ (": " ++ reason).toList)

def isShell (name : String) : Bool := name == "sh" || name == "dash" || name == "bash"

/-! ## Finding programs -/

def programName (path : List Char) : String :=
  if "/bin/".toList.isPrefixOf path then String.ofList (path.drop 5)
  else if "/usr/bin/".toList.isPrefixOf path then String.ofList (path.drop 9)
  else ""

def isProgramName (name : String) : Bool :=
  (tools.lookup name).isSome || ((programs run).lookup name).isSome || isShell name ||
    (starters.lookup name).isSome || name == "which"

def isProgramPath (path : List Char) (m : Machine) : Bool :=
  isProgramName run (programName path) ||
    ((m.tree.locate (Machine.outside path)).toOption).any m.isRunnable

/-- The path of the program that a name stands for: the name itself if it has a slash, or else that in the
    first directory of a search list where there is one. -/
def pathIn? (list name : List Char) (m : Machine) : Option (List Char) :=
  if name.contains '/' then (if isProgramPath run name m then some name else none)
  else if name.isEmpty then none
  else
    (Text.splitAll ':' list).findSome? fun directory =>
      let path := if directory.isEmpty then name else directory ++ '/' :: name
      if isProgramPath run path m then some path else none

def programPath? (name : List Char) (m : Machine) : Option (List Char) :=
  pathIn? run ((m.get? "PATH").getD []) name m

/-- The path of the program that a name stands for where another program starts it. -/
def launchedPath? (name : List Char) (m : Machine) : Option (List Char) :=
  pathIn? run ((m.get? "PATH").getD "/bin:/usr/bin".toList) name m

def findPrograms : Builtin := fun arguments m =>
  let names := arguments.filter fun a => a.head? != some '-'
  let found := names.filterMap fun name => programPath? run name m
  (m.write 1 (textOfLines found)).withStatus
    (if found.length = names.length && !names.isEmpty then 0 else 1)

/-- The interpreter and its argument that the first line of a script names. -/
def interpreterOf (script : List Char) : List (List Char) :=
  match script with
  | '#' :: '!' :: rest =>
      let line := (rest.takeWhile (· != '\n')).dropWhile fun c => c == ' ' || c == '\t'
      let (path, rest) := line.span fun c => c != ' ' && c != '\t'
      let argument := (rest.dropWhile fun c => c == ' ' || c == '\t').reverse.dropWhile fun c =>
        c == ' ' || c == '\t'
      if argument.isEmpty then [path] else [path, argument.reverse]
  | _ => []

/-- Runs the program at the end of a path, which was called by a name; `fuel` bounds the number of programs
    that run other programs. -/
def runProgram : Nat → List Char → List Char → List (List Char) → Machine → Machine
  | 0, _, _, _, m => m.expire
  | fuel + 1, path, called, arguments, m =>
      let m := m.wait 1000
      let name := programName path
      let launcher : Launcher := ⟨fun name m => (launchedPath? run name m).isSome,
        fun name arguments m =>
          runProgram fuel ((launchedPath? run name m).getD name) name arguments m⟩
      match tools.lookup name, (programs run).lookup name, starters.lookup name with
      | some tool, _, _ => runTool tool arguments m
      | none, some program, _ => program arguments m
      | none, none, some starter => starter launcher arguments m
      | none, none, none =>
          if isShell name then runShellProgram run called arguments m
          else if name = "which" then findPrograms run arguments m
          else
            match (m.tree.locate (Machine.outside path)).toOption with
            | some place =>
                if m.isRunnable place then
                  let script := ((m.files.content? place).map Machine.textOf).getD []
                  match interpreterOf script with
                  | [] => runShell run path arguments [] (runText run script) m
                  | interpreter :: argument =>
                      if isProgramPath run interpreter m then
                        runProgram fuel interpreter interpreter (argument ++ path :: arguments) m
                      else m.fail 127 (path ++ ": not found".toList)
                else if m.files.isDirectory place || (m.files.content? place).isSome then
                  m.fail 126 (path ++ ": Permission denied".toList)
                else m.fail 127 (path ++ ": not found".toList)
            | none => m.fail 127 (path ++ ": not found".toList)

end

end CodeBlock.Shell
