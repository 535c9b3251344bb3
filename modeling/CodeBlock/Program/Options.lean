import CodeBlock.Parameters.Basic

set_option autoImplicit false

/-! # The options of the command line

Options have long names; an option that takes a value takes it from the next argument or from after an
equals sign. What is no option is the file of the block, of which there is one at most. The value of
an option is looked at when the next one is met, so that of two mistakes the one that is further to
the left wins, unless the one further to the right is no option at all. -/

namespace CodeBlock

/-- What the command line asks for. -/
structure Options where
  /-- The file of the block; none means standard input. -/
  file : Option String
  /-- The file of the parameters. -/
  parametersFile : Option String
  vars : List String
  permissions : List Permission
  columnNames : List String
  resultKind : Option ResultKind
  keyword : Option Keyword
  command : Option String
  prologue : Option String
  epilogue : Option String
  /-- Whether the script is to be shown instead of run. -/
  expand : Bool
  /-- Whether the output is to be shown as it is. -/
  raw : Bool

/-- Why a command line is not carried out. -/
inductive OptionsError where
  /-- There is no such option, or there is a second file. -/
  | unknown
  /-- An option that takes a value has none. -/
  | missingValue
  /-- An option came twice that may come once. -/
  | repeated
  /-- An option that takes no value has one. -/
  | unwantedValue
  /-- A value is not what the option wants. -/
  | invalidValue (reason : String)
  | helpWanted
  | versionWanted
  deriving DecidableEq, Repr

namespace Options

/-- Nothing is asked for. -/
def none : Options :=
  ⟨.none, .none, [], [], [], .none, .none, .none, .none, .none, false, false⟩

/-- The options and arguments that take a value. -/
inductive Slot where
  | file
  | parametersFile
  | vars
  | permissions
  | columnNames
  | resultKind
  | keyword
  | command
  | prologue
  | epilogue
  deriving DecidableEq, Repr

/-- The options that take no value. -/
inductive Switch where
  | expand
  | raw
  | help
  | version
  deriving DecidableEq, Repr

/-- The long names of the options that take a value. -/
def slots : List (String × Slot) :=
  [("params", .parametersFile), ("var", .vars), ("allow", .permissions),
    ("colnames", .columnNames), ("result-type", .resultKind), ("prefix", .keyword),
    ("cmd", .command), ("prologue", .prologue), ("epilogue", .epilogue)]

/-- The long names of the options that take no value. -/
def switches : List (String × Switch) :=
  [("expand", .expand), ("raw", .raw), ("help", .help), ("version", .version)]

/-! ## Values -/

/-- Fills a slot that may be filled once. -/
def once {α : Type} (old : Option α) (value : Except OptionsError α) :
    Except OptionsError (Option α) :=
  if old.isSome then .error .repeated else value.map some

/-- A value that was read from a text, or the error that it could not be. -/
def valid {α : Type} (value : Except String α) : Except OptionsError α :=
  match value with
  | .ok a => .ok a
  | .error reason => .error (.invalidValue reason)

def fileName (s : String) : Except OptionsError String :=
  if s = "" then .error .missingValue else .ok s

/-- The options with a value in a slot. -/
def fill (o : Options) (slot : Slot) (value : String) : Except OptionsError Options :=
  match slot with
  | .file => do return { o with file := ← once o.file (fileName value) }
  | .parametersFile => do
      return { o with parametersFile := ← once o.parametersFile (fileName value) }
  | .vars => .ok { o with vars := o.vars ++ [value] }
  | .permissions => do
      let p ← valid (Permission.ofString value)
      return { o with permissions := o.permissions ++ [p] }
  | .columnNames => .ok { o with columnNames := o.columnNames ++ [value] }
  | .resultKind => do
      return { o with resultKind := ← once o.resultKind (valid (ResultKind.ofString value)) }
  | .keyword => do return { o with keyword := ← once o.keyword (valid (Keyword.ofString value)) }
  | .command => do return { o with command := ← once o.command (.ok value) }
  | .prologue => do return { o with prologue := ← once o.prologue (.ok value) }
  | .epilogue => do return { o with epilogue := ← once o.epilogue (.ok value) }

/-- The options with a switch turned on. -/
def turnOn (o : Options) : Switch → Except OptionsError Options
  | .expand => if o.expand then .error .repeated else .ok { o with expand := true }
  | .raw => if o.raw then .error .repeated else .ok { o with raw := true }
  | .help => .error .helpWanted
  | .version => .error .versionWanted

/-! ## Arguments -/

/-- What has been read of a command line: the options, and the slot that was met last with its value,
    which is not looked at yet. -/
structure Progress where
  options : Options
  pending : Option (Slot × Option String)
  /-- Whether there was a file. -/
  fileGiven : Bool
  /-- Whether all that follows is no option. -/
  plainOnly : Bool

namespace Progress

/-- Looks at the value that is pending. -/
def settle (p : Progress) : Except OptionsError Progress :=
  match p.pending with
  | .none => .ok p
  | some (_, .none) => .error .missingValue
  | some (slot, some value) => do
      return { p with options := ← p.options.fill slot value, pending := .none }

/-- Reads an argument that is no option. -/
def readPlain (p : Progress) (argument : String) : Except OptionsError Progress :=
  if p.fileGiven then .error .unknown
  else do
    let p ← p.settle
    return { p with pending := some (.file, some argument), fileGiven := true }

/-- Reads an option by its long name, with what follows the equals sign if there is one. -/
def readLong (p : Progress) (name : String) (value : Option String) :
    Except OptionsError Progress :=
  match slots.lookup name, switches.lookup name with
  | some slot, _ => do
      let p ← p.settle
      match value with
      | some value => return { p with options := ← p.options.fill slot value }
      | .none => return { p with pending := some (slot, .none) }
  | .none, some switch =>
      if value.isSome then .error .unwantedValue
      else do
        let p ← p.settle
        return { p with options := ← p.options.turnOn switch }
  | .none, .none => .error .unknown

/-- Reads an option by the first of its letters: all of them ask for something else than a run. -/
def readShort (p : Progress) (letters : List Char) : Except OptionsError Progress :=
  match letters with
  | 'h' :: _ => do
      let _ ← p.settle
      .error .helpWanted
  | 'V' :: _ => do
      let _ ← p.settle
      .error .versionWanted
  | _ => .error .unknown

/-- Reads an argument. -/
def read (p : Progress) (argument : String) : Except OptionsError Progress :=
  if p.plainOnly then p.readPlain argument
  else
    match argument.toList with
    | ['-', '-'] => .ok { p with plainOnly := true }
    | '-' :: '-' :: name =>
        match Text.splitOnce '=' name with
        | some (name, value) => p.readLong (String.ofList name) (some (String.ofList value))
        | .none => p.readLong (String.ofList name) .none
    | '-' :: c :: letters => p.readShort (c :: letters)
    | _ =>
        match p.pending with
        | some (slot, .none) => .ok { p with pending := some (slot, some argument) }
        | _ => p.readPlain argument

end Progress

def ofArguments (arguments : List String) : Except OptionsError Options := do
  let p ← arguments.foldlM Progress.read ⟨none, .none, false, false⟩
  let p ← p.settle
  return p.options

end Options

end CodeBlock
