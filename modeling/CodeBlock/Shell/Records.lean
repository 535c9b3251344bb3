import CodeBlock.Shell.Records.Reader
import CodeBlock.Shell.Records.Run

set_option autoImplicit false

/-! # The program that works on records

The program gets a script, or files that hold one, and goes through the records of the files it is given,
or of its input. Arguments that are settings of variables are made when their turn comes. -/

namespace CodeBlock.Shell.Records

/-- How the program is used. -/
def usage : String :=
  "Usage: mawk [Options] [Program] [file ...]

Program:
    The -f option value is the name of a file containing program text.
    If no -f option is given, a \"--\" ends option processing; the following
    parameters are the program text.

Options:
    -f program-file  Program  text is read from file instead of from the
                     command-line.  Multiple -f options are accepted.
    -F value         sets the field separator, FS, to value.
    -v var=value     assigns value to program variable var.
    --               unambiguous end of options.

    Implementation-specific options are prefixed with \"-W\".  They can be
    abbreviated:

    -W version       show version information and exit.
    -W compat        pre-POSIX 2001.
    -W dump          show assembler-like listing of program and exit.
    -W help          show this message and exit.
    -W interactive   set unbuffered output, line-buffered input.
    -W exec file     use file as program as well as last option.
    -W posix         stricter POSIX checking.
    -W random=number set initial random seed.
    -W sprintf=number adjust size of sprintf buffer.
    -W usage         show this message and exit.
"

/-- What the program was called with. -/
structure Invocation where
  separator : Option (List Char)
  settings : List (String × List Char)
  /-- The files that hold the script. -/
  sources : List (List Char)
  operands : List (List Char)

/-- Takes the arguments apart. -/
def Invocation.ofArguments (i : Invocation) : List (List Char) → Except String Invocation
  | ['-', '-'] :: rest => .ok { i with operands := rest }
  | ['-', 'F'] :: value :: rest => ofArguments { i with separator := some value } rest
  | ['-', 'v'] :: value :: rest => setting value rest
  | ['-', 'f'] :: value :: rest => ofArguments { i with sources := i.sources ++ [value] } rest
  | ['-', 'W'] :: _ :: rest => ofArguments i rest
  | ['-', c] :: _ =>
      if c = 'F' || c = 'v' || c = 'f' || c = 'W' then
        .error ("option -" ++ String.singleton c ++ " lacks argument")
      else .error ("not an option: -" ++ String.singleton c)
  | ('-' :: 'F' :: value) :: rest => ofArguments { i with separator := some value } rest
  | ('-' :: 'v' :: value) :: rest => setting value rest
  | ('-' :: 'f' :: value) :: rest => ofArguments { i with sources := i.sources ++ [value] } rest
  | ('-' :: 'W' :: _) :: rest => ofArguments i rest
  | ('-' :: c :: more) :: _ => .error ("not an option: -" ++ String.ofList (c :: more))
  | operands => .ok { i with operands := operands }
where
  setting (value : List Char) (rest : List (List Char)) : Except String Invocation :=
    match Action.settingOf? value with
    | some pair => ofArguments { i with settings := i.settings ++ [pair] } rest
    | none => .error ("improper assignment: -v " ++ String.ofList value)

/-- A complaint about a script. -/
def Fault.report (f : Fault) : List Char :=
  ((if f.isTerse then "awk: " else "awk: line ") ++ toString f.line ++ ": ").toList ++ f.message

/-- The variables that there are at the start. -/
def firstGlobals (arguments : Nat) : List (String × Cell) :=
  [("NR", .value (.ofNat 0)), ("FNR", .value (.ofNat 0)), ("NF", .value (.ofNat 0)),
    ("FS", .value (.text [' '])), ("OFS", .value (.text [' '])), ("ORS", .value (.text ['\n'])),
    ("RS", .value (.text ['\n'])), ("FILENAME", .value (.text [])),
    ("SUBSEP", .value (.text ['\x1c'])), ("RSTART", .value .unset),
    ("RLENGTH", .value .unset), ("CONVFMT", .value (.text "%.6g".toList)),
    ("OFMT", .value (.text "%.6g".toList)), ("ENVIRON", .table 0), ("ARGV", .table 1),
    ("ARGC", .value (.ofNat arguments))]

/-- A table of some texts under keys. -/
def tableOfTexts (entries : List (List Char × List Char)) : Table :=
  entries.foldl (fun t (key, text) => (t.findText true key).set key (.ofInput text)) .empty

/-- The state before a script is run. -/
def Session.start (script : Script) (arguments : List (List Char)) (m : Machine) : Session :=
  let environment := m.scope.vars.filterMap fun (name, value) =>
    if m.scope.exported.contains name then some (name.toList, value) else none
  let argv := ("awk".toList :: arguments).zipIdx.map fun (text, i) => ((toString i).toList, text)
  { script := script
    machine := m
    globals := firstGlobals (arguments.length + 1)
    locals := []
    depth := 0
    tables := #[tableOfTexts environment, argv.foldl
      (fun t (key, text) => (t.findNumber true (ofDigits 10 key)).set key (.ofInput text)) .empty]
    record := .text []
    fields := #[]
    pieces := []
    sinks := []
    sources := []
    pending := none
    nextArgument := 1
    sawText := false
    within := []
    seed := .ofNat 1
    status := 0 }

/-- Gives the variables that were asked for their values and runs the script. -/
def runSettled (run : Runner) (i : Invocation) : Action Unit := do
  i.settings.forM fun (name, value) => Action.store (.named name) (.ofInput value)
  match i.separator with
  | some text => Action.store (.named "FS") (.text (unescapeText (text.length + 1) text))
  | none => pure ()
  runScript run

/-- The shell after a script has ended with a status. -/
def Session.finish (run : Runner) (s : Session) (status : Nat) : Machine :=
  let s := s.closeAll run
  if s.machine.goesOn then s.machine.withStatus status else s.machine

/-- Runs a script with some settings. -/
def runWith (run : Runner) (script : Script) (i : Invocation) (arguments : List (List Char))
    (m : Machine) : Machine :=
  let (result, s) := (runSettled run i).run (.start script arguments m)
  match result with
  | .error .halted => if s.machine.goesOn then s.machine.expire else s.machine
  | .error (.failed message) => { s with machine := s.machine.warn ("awk: ".toList ++ message) }.finish run 2
  | _ => s.finish run s.status

/-- The program. -/
def program (run : Runner) : Builtin := fun arguments m =>
  if arguments.isEmpty then (m.write 2 usage.toList).withStatus 0
  else
    match Invocation.ofArguments ⟨none, [], [], []⟩ arguments with
    | .error message => (m.warn ("awk: " ++ message).toList).withStatus 2
    | .ok i =>
        let read := i.sources.map fun name => (name, m.readFile name)
        let unread := read.find? fun (_, found) => !found.isOk
        match unread, i.sources, i.operands with
        | some (name, _), _, _ =>
            (m.warn ("awk: cannot open \"".toList ++ name ++
              "\" (No such file or directory)".toList)).withStatus 2
        | none, [], [] => (m.write 2 usage.toList).withStatus 2
        | none, sources, operands =>
            let (text, arguments) := match sources, operands with
              | [], text :: arguments => (text, arguments)
              | _, arguments =>
                  ((read.filterMap fun (_, found) => found.toOption).intersperse ['\n'] |>.flatten, arguments)
            match Script.ofText text with
            | .error fault => (m.warn fault.report).withStatus 2
            | .ok script => runWith run script i arguments m

end CodeBlock.Shell.Records
