import CodeBlock.Shell.FilePrograms
import CodeBlock.Shell.Runner

set_option autoImplicit false

/-! # Programs that start programs

These programs take another one with its arguments and run it in some way: with other variables, for a
limited time, or over and over with arguments that they read. -/

namespace CodeBlock.Shell

/-- How programs are started. -/
structure Launcher where
  /-- Whether there is a program of a name. -/
  knows : List Char → Machine → Bool
  run : List Char → List (List Char) → Machine → Machine

/-- Starts a program for another one; `name` complains if there is no such program. -/
def Launcher.start (l : Launcher) (name : String) (path : List Char) (arguments : List (List Char))
    (m inner : Machine) : Machine :=
  if l.knows path inner then m.rejoin (l.run path arguments inner)
  else
    let reason := match name with
      | "timeout" => "timeout: failed to run command ".toList ++ quoted path
      | "nohup" => "nohup: failed to run command ".toList ++ quoted path
      | "xargs" => "xargs: ".toList ++ path
      | name => (name ++ ": ").toList ++ quoted path
    (m.warn (reason ++ ": No such file or directory".toList)).withStatus 127

/-! ## Variables -/

/-- The variables that programs get to see, in the order of the table that the shell keeps. -/
def seenVariables (m : Machine) : List (List Char × List Char) :=
  Builtin.inTable 39 (m.scope.vars.filterMap fun (name, value) =>
    if m.scope.exported.contains name then some (name.toList, value) else none)

def variableLines (vars : List (List Char × List Char)) : List Char :=
  vars.flatMap fun (name, value) => name ++ '=' :: value ++ ['\n']

def showVariables : Builtin := fun arguments m =>
  let seen := seenVariables m
  if arguments.isEmpty then (m.write 1 (variableLines seen)).withStatus 0
  else
    arguments.foldl (fun m name =>
      match seen.lookup name with
      | some value => m.write 1 (value ++ ['\n'])
      | none => m.withStatus 1) (m.withStatus 0)

/-- The program that starts another one with other variables. -/
def withVariables (l : Launcher) : Builtin := fun arguments m =>
  let table := SwitchTable.ofText "iu:C:0v" [
    ("ignore-environment", 'i'), ("unset", 'u'), ("chdir", 'C'), ("null", '0')]
  let arguments := if arguments.head? = some ['-'] then ['-', 'i'] :: arguments.drop 1 else arguments
  match table.read true arguments with
  | .error fault => runTool (fun _ => .advising "env" 125 fault.message) [] m
  | .ok given =>
      let kept := if given.has 'i' then [] else seenVariables m
      let kept := kept.filter fun (name, _) => !(given.values 'u').contains name
      let settings := given.operands.takeWhile (·.contains '=')
      let vars := settings.foldl (fun (table : Variables) setting =>
        match Text.splitOnce '=' setting with
        | some (name, value) => Table.put (String.ofList name) value table
        | none => table) (kept.map fun (name, value) => (String.ofList name, value))
      match given.operands.drop settings.length with
      | [] =>
          (m.write 1 (variableLines (vars.map fun (name, value) =>
            (name.toList, value)))).withStatus 0
      | path :: others =>
          l.start "env" path others m { m with
            scope.vars := vars
            scope.exported := vars.map (·.1) }

/-! ## Time -/

/-- The microseconds that a duration denotes. -/
def microseconds? (s : List Char) : Option Nat :=
  let (digits, rest) := s.span Char.isDigit
  let (fraction, unit) := match rest with
    | '.' :: rest => rest.span Char.isDigit
    | rest => ([], rest)
  let factor := match unit with
    | [] => some 1
    | ['s'] => some 1
    | ['m'] => some 60
    | ['h'] => some 3600
    | ['d'] => some 86400
    | _ => none
  if digits.isEmpty && fraction.isEmpty then none
  else factor.map fun factor =>
    factor * ofDigits 10 (digits ++ (fraction ++ List.replicate 6 '0').take 6)

/-- The program that runs another one for a limited time. -/
def forLimitedTime (l : Launcher) : Builtin := fun arguments m =>
  let table := SwitchTable.ofText "k:s:v\x01\x02" [
    ("kill-after", 'k'), ("signal", 's'), ("verbose", 'v'), ("foreground", '\x01'),
    ("preserve-status", '\x02')]
  let refuse := fun (message : List Char) =>
    runTool (fun _ => .advising "timeout" 125 message) [] m
  match table.read true arguments with
  | .error fault => refuse fault.message
  | .ok given =>
      match given.operands with
      | duration :: path :: others =>
          match microseconds? duration with
          | none => refuse ("invalid time interval ".toList ++ quoted duration)
          | some time =>
              let limit := m.clock + time
              if time = 0 || m.deadline.any (decide <| · ≤ limit) then
                l.start "timeout" path others m m
              else
                let after := l.start "timeout" path others m { m with deadline := some limit }
                let back := { after with deadline := m.deadline }
                if after.flow = .expired then
                  let status :=
                    if given.has '\x02' then 143
                    else if (given.value? 's').any fun s => s == ['9'] || s == "KILL".toList then 137
                    else 124
                  { back with clock := limit, flow := .onward }.withStatus status
                else back
      | _ => runTool (fun _ => .refusing 125 "Try 'timeout --help' for more information.") [] m

/-! ## Arguments that are read -/

/-- Words of a text: quotes and backslashes take the meaning from blanks; `line` says that a word ends its
    line. Gives nothing for a quote that is not closed. -/
def quotedWords : Nat → Option (List Char) → List Char → Except Char (List (List Char × Bool))
  | 0, _, _ => .ok []
  | _ + 1, none, [] => .ok []
  | _ + 1, some word, [] => .ok [(word.reverse, true)]
  | fuel + 1, word, c :: rest =>
      let more := fun (d : Char) (rest : List Char) =>
        quotedWords fuel (some (d :: word.getD [])) rest
      if c = '\'' || c = '"' then
        let inside := rest.takeWhile fun d => d != c && d != '\n'
        match rest.drop inside.length with
        | d :: rest =>
            if d = c then quotedWords fuel (some (inside.reverse ++ word.getD [])) rest
            else .error c
        | [] => .error c
      else if c = '\\' then
        match rest with
        | d :: rest => more d rest
        | [] => quotedWords fuel word []
      else if c = ' ' || c = '\t' || c = '\n' then
        match word with
        | none => quotedWords fuel none rest
        | some word => (quotedWords fuel none rest).map ((word.reverse, c == '\n') :: ·)
      else more c rest

/-- Rows of so many words. -/
def chunks (size : Nat) : Nat → List (List Char) → List (List (List Char))
  | 0, _ => []
  | _ + 1, [] => []
  | fuel + 1, words => words.take size :: chunks size fuel (words.drop size)

/-- Rows of the words of so many lines. -/
def lineChunks (size : Nat) : Nat → List (List Char) → List (List Char × Bool) →
    List (List (List Char))
  | _, [], [] => []
  | _, row, [] => [row.reverse]
  | lines, row, (word, isLast) :: rest =>
      let lines := if isLast then lines + 1 else lines
      if lines = size then (word :: row).reverse :: lineChunks size 0 [] rest
      else lineChunks size lines (word :: row) rest

/-- A text with another one put for every occurrence of a mark. -/
def substituted (mark text : List Char) : Nat → List Char → List Char
  | 0, s => s
  | _ + 1, [] => []
  | fuel + 1, c :: rest =>
      if !mark.isEmpty && mark.isPrefixOf (c :: rest) then
        text ++ substituted mark text fuel ((c :: rest).drop mark.length)
      else c :: substituted mark text fuel rest

/-- The status of the program that runs others, after one of them ended with a status. -/
def statusAfter (before status : Nat) : Nat :=
  if status = 0 then before
  else if status = 126 || status = 127 then status
  else if status = 255 then 124
  else if 128 < status then 125
  else 123

/-- Runs a program once for each row of arguments. -/
def runRows (l : Launcher) (shows : Bool) (path : List Char) :
    List (List (List Char)) → Machine → Machine
  | [], m => m
  | row :: rows, m =>
      let m := if shows then m.warn ((path :: row).intersperse [' ']).flatten else m
      let inner := m.connect 0 .nothing
      let after := l.start "xargs" path row m inner
      let status := statusAfter m.status after.status
      let after := after.withStatus status
      if !after.goesOn || status = 124 || status = 126 || status = 127 then
        if status = 124 then
          after.warn ("xargs: ".toList ++ path ++ ": exited with status 255; aborting".toList)
        else after
      else runRows l shows path rows after

def readingSwitches : SwitchTable :=
  .ofText "0a:d:E:e::I:i::L:l::n:oP:prs:tx" [
    ("null", '0'), ("arg-file", 'a'), ("delimiter", 'd'), ("replace", 'i'), ("max-lines", 'l'),
    ("max-args", 'n'), ("max-procs", 'P'), ("no-run-if-empty", 'r'), ("verbose", 't')]

/-- The mark that what is read is put for, if there is one. -/
def markOf (given : Switches) : Option (List Char) :=
  (given.value? 'I').or ((given.value? 'i').map fun v => if v.isEmpty then ['\x7b', '\x7d'] else v)

/-- The character that ends what is read as one argument, if it is not the blanks that do. -/
def delimiterOf (given : Switches) : Option Char :=
  if given.has '0' then some '\x00'
  else (given.value? 'd').bind fun d =>
    match d with
    | '\\' :: rest => (escapeOf? (rest.headD '\\')).or (some '\x00')
    | d => d.head?

/-- What stands between characters of one kind; the last one needs none behind it. -/
def endedBy (c : Char) (text : List Char) : List (List Char) :=
  let pieces := Text.splitAll c text
  if pieces.getLast? = some [] then pieces.dropLast else pieces

/-- The rows of arguments that a text makes: those that are given, with the ones that are read. A quote that is
    not closed is an error. -/
def rowsOf (given : Switches) (fixed : List (List Char)) (text : List Char) :
    Except Char (List (List (List Char))) :=
  let number := fun (letter : Char) => ((given.value? letter).bind countOf?).filter (0 < ·)
  let lines := (number 'L').or ((given.value? 'l').map fun v => (countOf? v).getD 1)
  match markOf given, delimiterOf given with
  | some mark, delimiter =>
      let items := match delimiter with
        | some c => endedBy c text
        | none => ((endedBy '\n' text).map skipBlanks).filter (!·.isEmpty)
      .ok (items.map fun item => fixed.map fun a => substituted mark item (a.length + 1) a)
  | none, some c =>
      let items := endedBy c text
      .ok ((chunks ((number 'n').getD (items.length + 1)) (items.length + 1) items).map (fixed ++ ·))
  | none, none => do
      let words ← quotedWords (text.length + 1) none text
      let rows := match lines with
        | some n => lineChunks n 0 [] words
        | none =>
            chunks ((number 'n').getD (words.length + 1)) (words.length + 1)
              (words.map fun (word : List Char × Bool) => word.1)
      .ok (rows.map (fixed ++ ·))

/-- The program that runs another one with arguments that it reads. -/
def withReadArguments (l : Launcher) : Builtin := fun arguments m =>
  match readingSwitches.read true arguments with
  | .error fault => runTool (fun _ => .advising "xargs" 1 fault.message) [] m
  | .ok given =>
      let path := given.operands.headD "echo".toList
      let fixed := given.operands.drop 1
      let text := match given.value? 'a' with
        | some file => ((m.readFile file).toOption).getD []
        | none => m.input
      let m := (if given.has 'a' then m else m.leave []).withStatus 0
      match rowsOf given fixed text with
      | .error quote =>
          (m.warn ("xargs: unmatched ".toList ++
            (if quote = '"' then "double" else "single").toList ++
            (" quote; by default quotes are special to xargs unless you use the -0 " ++
              "option").toList)).withStatus 1
      | .ok [] =>
          if given.has 'r' || (markOf given).isSome then m
          else runRows l (given.has 't') path [fixed] m
      | .ok rows => runRows l (given.has 't') path rows m

/-- A program that runs another one as it is, behind some switches. -/
def plainStarter (name letters : String) (l : Launcher) : Builtin := fun arguments m =>
  match (SwitchTable.ofText letters []).read true arguments with
  | .error fault => runTool (fun _ => .advising name 125 fault.message) [] m
  | .ok ⟨_, []⟩ => runTool (fun _ => .advising name 125 "missing operand".toList) [] m
  | .ok ⟨_, path :: others⟩ => l.start name path others m m

/-- The programs that start programs. -/
def starters : List (String × (Launcher → Builtin)) :=
  [("env", withVariables), ("timeout", forLimitedTime), ("xargs", withReadArguments),
    ("nohup", plainStarter "nohup" ""), ("nice", plainStarter "nice" "n:"),
    ("setsid", plainStarter "setsid" "cfw"), ("stdbuf", plainStarter "stdbuf" "i:o:e:")]

end CodeBlock.Shell
