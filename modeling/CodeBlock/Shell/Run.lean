import CodeBlock.Shell.Meaning

set_option autoImplicit false

/-! # Running commands

One step of a run is given for any way of running the commands inside of a command; a run is what comes
of taking steps as deep as the fuel goes. A shell that goes deeper has no room left, and is ended by a
signal. -/

namespace CodeBlock.Shell

section

variable (run : Runner)

/-! ## Commands that run commands -/

/-- Makes something local what it was before. -/
def Hidden.restore (m : Machine) : Hidden → Machine
  | .options letters => { m with scope.options := letters }
  | .variable name value isExported =>
      let m := match value with
        | some value => m.set name value
        | none => m.unset name
      let others := m.scope.exported.filter (· != name)
      { m with scope.exported := if isExported then name :: others else others }

/-- How deep the calls of functions may be nested. -/
def callLimit : Nat := 1000

/-- Calls a function. -/
def call (body : Command) (arguments : List (List Char)) (m : Machine) : Machine :=
  if callLimit ≤ m.scope.calls then
    m.abort ("Maximum function recursion depth (" ++ toString callLimit ++ ") reached").toList
  else
    let after := run body { m with
      scope.arguments := arguments
      scope.hidden := some []
      scope.loops := 0
      scope.calls := m.scope.calls + 1
      scope.optionIndex := 1
      scope.optionOffset := none }
    let back := (after.scope.hidden.getD []).foldl Hidden.restore after
    { back with
      scope.arguments := m.scope.arguments
      scope.hidden := m.scope.hidden
      scope.loops := m.scope.loops
      scope.calls := m.scope.calls
      scope.optionIndex := m.scope.optionIndex
      scope.optionOffset := m.scope.optionOffset
      flow := if back.flow = .leaveCall then .onward else back.flow }

/-- Runs the text of a file. -/
def runFile : Builtin := Builtin.withOptions [] fun _ operands m =>
  match operands with
  | [] => m.withStatus 0
  | path :: _ =>
      let directories := Text.splitAll ':' ((m.get? "PATH").getD [])
      let file := if path.contains '/' then some path
        else directories.findSome? fun directory =>
          let candidate := if directory.isEmpty then path else directory ++ '/' :: path
          if (m.tree.read (Machine.outside candidate)).isOk then some candidate else none
      match file with
      | none => m.abort (path ++ ": not found".toList)
      | some file =>
          match m.readFile file with
          | .ok text =>
              let after := { m with isTested := false }.named file (runText run text)
              { after with
                isTested := m.isTested
                flow := if after.flow = .leaveCall then .onward else after.flow }
          | .error e =>
              m.abort ("cannot open ".toList ++ file ++ (": " ++ openingReason false e).toList)

/-- Puts a program in the place of the shell. -/
def replaceShell : Builtin := fun arguments m =>
  match arguments with
  | [] => m.withStatus 0
  | name :: arguments =>
      match programPath? run name m with
      | some path =>
          let after := runProgram run 100 path name arguments { m with inPlace := true }
          if after.goesOn then { after with flow := .exit, scope.traps := [] } else after
      | none => { m.fail 127 (name ++ ": not found".toList) with flow := .exit }

/-- The commands of the shell that run or look for other commands. -/
def runBuiltin (name : String) : Builtin :=
  match name with
  | "." => runFile run
  | "eval" => fun arguments m => runText run (arguments.intersperse [' ']).flatten m
  | "exec" => replaceShell run
  | "command" => describing run
  | "type" => describeAll run
  | "hash" => findAhead run
  | "kill" => kill
  | name => (Builtin.all.lookup name).getD (Builtin.nothing 0)

/-- Carries out a command of the shell. An error ends the shell if `isSpecial`, and otherwise only the
    command. -/
def carryOut (isSpecial : Bool) (name : String) (arguments : List (List Char)) (m : Machine) : Machine :=
  let after := m.named name.toList (runBuiltin run name arguments)
  if after.flow = .fault && !isSpecial then { after with flow := .onward } else after

/-- Runs a program, or says that there is none. -/
def launch (name : List Char) (arguments : List (List Char)) (m : Machine) : Machine :=
  match programPath? run name m with
  | some path => runProgram run 100 path name arguments (remember name path m)
  | none =>
      if name.contains '/' then runProgram run 100 name name arguments m
      else if name.isEmpty then m.fail 127 ": Permission denied".toList
      else m.fail 127 (name ++ ": not found".toList)

/-! ## Simple commands -/

/-- The commands whose arguments may be assignments. -/
def declaring : List String := ["alias", "export", "local", "readonly"]

/-- The fields of the first words that have any, and the words that are left. -/
def expandFirst : List Word → Machine → List (List Char) × List Word × Machine
  | [], m => ([], [], m)
  | word :: words, m =>
      let (fields, m) := expandFields (substitute run) word m
      if fields.isEmpty && m.goesOn then expandFirst words m else (fields, words, m)

/-- The fields of the arguments of a command; for one that declares something the values of assignments
    are not cut. -/
def expandArguments (declares : Bool) : List Word → Machine → List (List Char) × Machine
  | [], m => ([], m)
  | word :: words, m =>
      if m.goesOn then
        let (fields, m) := match declares, assignment? word with
          | true, some (name, value) =>
              let (text, m) := expandValue (substitute run) value m
              ([name ++ '=' :: text], m)
          | _, _ => expandFields (substitute run) word m
        let (others, m) := expandArguments declares words m
        (fields ++ others, m)
      else ([], m)

/-- Whether a command declares something, as far as its name and the words after it say. -/
def declares (name : List Char) (words : List Word) : Bool :=
  if name = "command".toList then
    let written := words.filterMap bareText?
    (written.find? fun text => text.head? != some '-').any fun text =>
      declaring.contains (String.ofList text)
  else declaring.contains (String.ofList name)

/-- What the name of a command and its arguments say is run: the command behind others that only say how
    it is found. -/
structure Chosen where
  name : List Char
  arguments : List (List Char)
  /-- Whether functions do not count. -/
  isPlain : Bool
  /-- Whether programs are looked for where they usually are. -/
  isUsual : Bool

/-- The arguments that a command for finding commands leaves, and whether the usual places count; nothing
    if it is asked for something else. -/
def operandsOfCommand : List (List Char) → Option (List (List Char) × Bool)
  | [] => none
  | ['-', '-'] :: rest => if rest.isEmpty then none else some (rest, false)
  | ('-' :: c :: letters) :: rest =>
      if (c :: letters).all (· == 'p') then (operandsOfCommand rest).map fun (rest, _) => (rest, true)
      else none
  | operands => some (operands, false)

/-- Looks behind the commands that only say how a command is found; `fuel` bounds their number. -/
def Chosen.settle (m : Machine) : Nat → Chosen → Chosen
  | 0, c => c
  | fuel + 1, c =>
      let isFunction := !c.isPlain && (m.scope.functions.lookup (String.ofList c.name)).isSome
      if c.name = "command".toList ∧ isFunction = false then
        match operandsOfCommand c.arguments with
        | some (name :: arguments, isUsual) =>
            settle m fuel ⟨name, arguments, true, isUsual || c.isUsual⟩
        | _ => c
      else c

/-- Sets variables one after the other, and shows how; gives their names. -/
def assignAll : List Assignment → Machine → List (String × List Char) × Machine
  | [], m => ([], m)
  | (name, word) :: rest, m =>
      let (value, m) := expandValue (substitute run) word m
      if m.goesOn then
        let m := m.assign (String.ofList name) value
        if m.goesOn then
          let (others, m) := assignAll rest m
          ((String.ofList name, value) :: others, m)
        else ([], m)
      else ([], m)

/-- Shows a command before it is run, on a stream. -/
def trace (stream : Option Stream) (assigned : List (String × List Char)) (fields : List (List Char))
    (m : Machine) : Machine :=
  if m.isOn 'x' then
    let mark := match readText ((m.get? "PS4").getD []) with
      | .ok text => expandSegments (substitute run) false text (m.turn 'x' false)
      | .error _ => ([], m)
    let settings := assigned.map fun (name, value) => name.toList ++ '=' :: value
    let line := textOfLetters mark.1 ++ ((settings ++ fields).intersperse [' ']).flatten ++ ['\n']
    m.writeTo stream line
  else m

/-- Makes variables what they were before, with whether programs see them. -/
def restoreVariables (before : Machine) (names : List String) (m : Machine) : Machine :=
  names.foldl (fun m name =>
    Hidden.restore m (.variable name (before.get? name) (before.scope.exported.contains name))) m

def runChosen (isSpecial : Bool) (c : Chosen) (m : Machine) : Machine :=
  let searching := if c.isUsual then m.set "PATH" "/usr/sbin:/usr/bin:/sbin:/bin".toList else m
  let meaning := if c.isPlain then ownMeaning run c.name searching else meaningOf run c.name m
  match meaning with
  | .function _ body => call run body c.arguments m
  | .builtin name => carryOut run isSpecial name c.arguments m
  | .program path =>
      runProgram run 100 path c.name c.arguments (if c.isUsual then m else remember c.name path m)
  | .nothing => launch run c.name c.arguments m

/-- The fields of a simple command and the targets of its redirections. -/
def expandSimple (line : Nat) (words : List Word) (redirections : List Redirection) (m : Machine) :
    List (List Char) × List (Nat × Target) × Machine :=
  let (first, words, m) := expandFirst run words ({ m with line := line, substituted := 0 }.wait 1)
  let (others, m) := expandArguments run (declares (first.headD []) words) words m
  let (targets, m) := if m.goesOn then targetsOf run redirections m else ([], m)
  (first ++ others, targets, m)

/-- What some fields say is run, if there are any. -/
def Chosen.ofFields? (m : Machine) : List (List Char) → Option Chosen
  | [] => none
  | name :: arguments => some (settle m (arguments.length + 2) ⟨name, arguments, false, false⟩)

/-- Whether an error ends the shell, and not just the command that some fields make. -/
def isSpecial (fields : List (List Char)) : Bool :=
  fields.head?.any fun name => specialCommands.contains (String.ofList name)

/-- Connects the descriptors again as they were before a command, unless it has connected them for good. -/
def reconnect (before : Machine) (forGood : Bool) (after : Machine) : Machine :=
  if forGood && after.goesOn then after
  else { after with scope.descriptors := before.scope.descriptors }

/-- Runs a simple command whose descriptors have been connected; `before` is the shell before that. -/
def runConnected (assignments : List Assignment) (fields : List (List Char)) (before m : Machine) : Machine :=
  let chosen := Chosen.ofFields? before fields
  let restored := reconnect before (chosen.any fun c => c.name = "exec".toList)
  let (assigned, m) := assignAll run assignments m
  if !m.goesOn then restored m
  else
    let m := trace run (before.scope.descriptors.lookup 2) assigned fields m
    match chosen with
    | none => (restored (m.withStatus m.substituted)).checked
    | some chosen =>
        if isSpecial fields then (restored (runChosen run true chosen m)).checked
        else
          let names := assigned.map (·.1)
          let after := runChosen run false chosen (names.foldl (fun m name => m.publish name) m)
          (restored (restoreVariables before names after)).checked

/-- Ends a simple command whose descriptors could not be connected. -/
def refuse (fields : List (List Char)) (before m : Machine) : Machine :=
  let after := reconnect before false m
  if after.goesOn && isSpecial fields then { after.withStatus 2 with flow := .fault }
  else if after.goesOn then (after.withStatus 2).checked
  else after

def runSimple (line : Nat) (assignments : List Assignment) (words : List Word)
    (redirections : List Redirection) (m : Machine) : Machine :=
  let (fields, targets, m) := expandSimple run line words redirections m
  if !m.goesOn then m
  else
    match connectAll run targets m with
    | (false, inner) => refuse fields m inner
    | (true, inner) => runConnected run assignments fields m inner

/-! ## Compound commands -/

/-- What becomes of the flow at the end of a round of a loop, and whether another round follows. -/
def Flow.afterRound : Flow → Flow × Bool
  | .onward => (.onward, true)
  | .leaveLoops n => (if n ≤ 1 then .onward else .leaveLoops (n - 1), false)
  | .nextRound n => if n ≤ 1 then (.onward, true) else (.nextRound (n - 1), false)
  | flow => (flow, false)

/-- What a round of a loop comes to. -/
structure Round where
  /-- Whether another round follows. -/
  isFollowed : Bool
  /-- The status of the loop if this is its last round. -/
  status : Nat
  machine : Machine

def Round.ofBody (m : Machine) : Round :=
  let (flow, isFollowed) := m.flow.afterRound
  ⟨isFollowed, m.status, { m with flow := flow }⟩

/-- Goes round a loop. `turn` is given the number of the round and the status of the body in the round
    before it; the loop has the status of its last round unless it is given up. -/
def repeatLoop (turn : Nat → Nat → Machine → Round) : Nat → Nat → Nat → Machine → Machine
  | 0, _, _, m => m.expire
  | fuel + 1, number, last, m =>
      let round := turn number last m
      if round.isFollowed then repeatLoop turn fuel (number + 1) round.status round.machine
      else if round.machine.isGivenUp then round.machine
      else round.machine.withStatus round.status

/-- A round of a loop that looks at a condition first. -/
def conditionRound (whileTrue : Bool) (condition body : Command) (last : Nat) (m : Machine) : Round :=
  let after := m.tested (run condition)
  match after.flow with
  | .onward =>
      if (after.status == 0) == whileTrue then .ofBody (run body after) else ⟨false, last, after⟩
  | .leaveCall => ⟨false, after.status, after⟩
  | _ => { Round.ofBody after with status := last }

/-- A round of a loop over some fields. -/
def fieldRound (name : List Char) (body : Command) (fields : Array (List Char)) (number last : Nat)
    (m : Machine) : Round :=
  match fields[number]? with
  | none => ⟨false, last, m⟩
  | some field =>
      let m := m.assign (String.ofList name) field
      if m.goesOn then .ofBody (run body m) else ⟨false, last, m⟩

/-- The names that the parts of a pipe start with, as far as they stand there as they are. -/
def Command.firstNames : Command → List (List Char)
  | .pipe source target => source.firstNames ++ target.firstNames
  | .simple _ _ (word :: _) _ => (bareText? word).toList.filter isName
  | _ => []

/-- Finds the programs of a pipe before its copies of the shell are made. -/
def findPiped (command : Command) (m : Machine) : Machine :=
  command.firstNames.foldl (fun m name =>
    match meaningOf run name m with
    | .program path => remember name path m
    | _ => m) m

def acceptedBy (text : List Char) : List Word → Machine → Bool × Machine
  | [], m => (false, m)
  | word :: words, m =>
      let (pattern, m) := expandPattern (substitute run) word m
      if !m.goesOn then (false, m)
      else if pattern.accepts text then (true, m)
      else acceptedBy text words m

/-- Runs a command where a missing one counts as a success. -/
def runBranch (body : Command) (m : Machine) : Machine :=
  match body with
  | .nothing => m.withStatus 0
  | body => run body m

/-- Runs the first branch whose patterns accept a text. -/
def runBranches (text : List Char) : List (List Word × Command) → Machine → Machine
  | [], m => m.withStatus 0
  | (patterns, body) :: others, m =>
      match acceptedBy run text patterns m with
      | (true, m) => runBranch run body m
      | (false, m) => if m.goesOn then runBranches text others m else m

/-- Runs a command without waiting for its end. -/
def runBehind (body : Command) (m : Machine) : Machine :=
  let process := m.processes + 1
  let after := runApart run (fun inner => run body ({ inner with isTested := false }.connect 0 .nothing))
    { m with processes := process }
  match after.flow with
  | .onward =>
      { after with
        status := 0
        clock := m.clock
        busyUntil := max after.busyUntil after.clock
        scope.jobs := ⟨process, after.status, after.clock, ""⟩ :: after.scope.jobs }
  | _ => after

/-- Does what a command says, given a way to run what is in it. -/
def perform : Runner := fun command m =>
  if !m.goesOn || m.isOn 'n' then m
  else
    match command with
    | .nothing => m
    | .simple line assignments words redirections =>
        runSimple run line assignments words redirections m
    | .redirected line body redirections =>
        let (targets, m) := targetsOf run redirections { m with line := line }
        if !m.goesOn then m
        else
          match connectAll run targets m with
          | (true, inner) => { run body inner with scope.descriptors := m.scope.descriptors }
          | (false, inner) =>
              { inner with
                scope.descriptors := m.scope.descriptors
                status := 2 }
    | .pipe source target =>
        let m := findPiped run (.pipe source target) m
        -- the source runs to its end before the target starts
        let (number, inner) := m.openBuffer []
        let inner := runApart run (fun m => run source (m.connect 1 (.buffer number))) inner
        if inner.goesOn then
          let after := runApart run (fun m => run target (m.connect 0 (.buffer number)))
            { inner with status := m.status }
          (after.closeBuffer number).2.checked
        else inner
    | .negate body =>
        let after := m.tested (run body)
        if after.goesOn then after.withStatus (if after.status = 0 then 1 else 0) else after
    | .andThen first second =>
        let after := m.tested (run first)
        if after.goesOn && after.status == 0 then run second after else after
    | .orElse first second =>
        let after := m.tested (run first)
        if after.goesOn && after.status != 0 then run second after else after
    | .inOrder first second => run second (run first m)
    | .background body => runBehind run body m
    | .apart line body redirections =>
        let inside := fun (inner : Machine) =>
          let (targets, inner) := targetsOf run redirections inner
          if !inner.goesOn then inner
          else
            match connectAll run targets inner with
            | (true, inner) => run body inner
            | (false, inner) => inner.withStatus 2
        (runApart run inside { m with line := line }).checked
    | .choice condition yes no =>
        let after := m.tested (run condition)
        if !after.goesOn then after
        else if after.status = 0 then run yes after
        else runBranch run no after
    | .loop whileTrue condition body =>
        m.inLoop (repeatLoop (fun _ => conditionRound run whileTrue condition body) roundLimit 0 0)
    | .forEach line name words body =>
        let m := { m with line := line }
        let (fields, m) := match words with
          | some words => expandAll (substitute run) words m
          | none => (m.scope.arguments, m)
        if !m.goesOn then m
        else
          m.inLoop (repeatLoop (fieldRound run name body fields.toArray) roundLimit 0 0)
    | .select line word branches =>
        let (text, m) := expandText (substitute run) word { m with line := line }
        if m.goesOn then runBranches run text branches m else m
    | .define line name body =>
        { m with
          scope.functions :=
            (String.ofList name, line, body) ::
              m.scope.functions.filter fun (n, _) => n != String.ofList name
          status := 0 }

/-- Runs a command, and then what traps say about the signals that came meanwhile. -/
def step : Runner := fun command m => answerSignals run (perform run command m)

end

/-- The signal that ends a shell whose commands are nested too deeply. -/
def nestingSignal : Signal := ⟨11, "SEGV", .ends, "Segmentation fault"⟩

def Command.run : Nat → Runner
  | 0, _, m => m.receive m.scope.process nestingSignal
  | fuel + 1, command, m => step (Command.run fuel) command m

end CodeBlock.Shell
