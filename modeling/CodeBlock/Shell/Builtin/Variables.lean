import CodeBlock.Shell.Builtin.Basic
import CodeBlock.Shell.Expansion

set_option autoImplicit false

/-! # Variables and options

Commands that set, show and take away variables, and those that set the options and the arguments of the
shell. -/

namespace CodeBlock.Shell.Builtin

def assigned (argument : List Char) : String × Option (List Char) :=
  match Text.splitOnce '=' argument with
  | some (name, value) => (String.ofList name, some value)
  | none => (String.ofList argument, none)

/-- Does something with each argument, as long as nothing fails. -/
def forEach (f : List Char → Machine → Machine) (arguments : List (List Char)) (m : Machine) :
    Machine :=
  let m := arguments.foldl (fun m argument => if m.goesOn then f argument m else m) m
  if m.goesOn then m.withStatus 0 else m

/-- The lines that show some variables in order, each after a word. -/
def listing (word : String) (m : Machine) (names : List String) : List Char :=
  (names.mergeSort fun a b => decide (a ≤ b)).flatMap fun name =>
    word.toList ++ name.toList ++
      (match m.get? name with
        | some value => '=' :: shown value
        | none => []) ++ ['\n']

def checkName (name : String) (m : Machine) : Machine :=
  if isName name.toList then m else m.abort (name.toList ++ ": bad variable name".toList)

/-- Gives variables a mark, or shows those that have it. -/
def mark (word : String) (marked : Machine → List String) (f : String → Machine → Machine) : Builtin :=
  withOptions [('p', false)] fun options names m =>
    if options.isEmpty && !names.isEmpty then
      forEach (fun argument m =>
        let (name, value) := assigned argument
        let m := match value with
          | some value => m.assign name value
          | none => checkName name m
        if m.goesOn then f name m else m) names m
    else print word (listing (word ++ " ") m (marked m).eraseDups) m

/-- Lets programs see variables. -/
def publish : Builtin := mark "export" (·.scope.exported) fun name m => m.publish name

def keep : Builtin := mark "readonly" (·.scope.constants) fun name m =>
  { m with scope.constants := name :: m.scope.constants }

/-- Sets variables until the function is left. -/
def hide : Builtin := fun arguments m =>
  match m.scope.hidden with
  | none => m.abort "not in a function".toList
  | some _ =>
      forEach (fun argument m =>
        let remember := fun (h : Hidden) (m : Machine) =>
          { m with scope.hidden := m.scope.hidden.map (h :: ·) }
        if argument = ['-'] then remember (.options m.scope.options) m
        else
          let (name, value) := assigned argument
          let m := checkName name m
          if m.goesOn then
            let m := remember (.variable name (m.get? name) (m.scope.exported.contains name)) m
            match value with
            | some value => m.assign name value
            | none => m
          else m) arguments m

/-- Takes away variables or functions. -/
def unset : Builtin := withOptions [('v', false), ('f', false)] fun options names m =>
  if (options.getLast?.map (·.1)) = some 'f' then
    { m with
      scope.functions := m.scope.functions.filter fun (name, _) => !names.contains name.toList
      status := 0 }
  else
    forEach (fun name m =>
      let text := String.ofList name
      if m.scope.constants.contains text then m.abort (name ++ ": is read only".toList)
      else
        let m := checkName text m
        if m.goesOn then m.unset text else m) names m

/-! ## Options and arguments -/

def withArguments (arguments : List (List Char)) (m : Machine) : Machine :=
  { m with scope.arguments := arguments, scope.optionIndex := 1, scope.optionOffset := none }

/-- The lines that show the options. -/
def optionListing (m : Machine) : List Char :=
  "Current option settings\n".toList ++ optionNames.flatMap fun (name, letter) =>
    let state := if letter.any m.isOn then "on\n" else "off\n"
    name.toList ++ List.replicate (16 - name.length) ' ' ++ state.toList

/-- The commands that set the options as they are. -/
def optionCommands (m : Machine) : List Char :=
  optionNames.flatMap fun (name, letter) =>
    ((if letter.any m.isOn then "set -o " else "set +o ") ++ name ++ "\n").toList

/-- Turns an option of a letter on or off. -/
def turnLetter (letter : Char) (on : Bool) (m : Machine) : Machine :=
  if !(optionNames.filterMap (·.2)).contains letter then
    m.abort ("Illegal option -".toList ++ [letter])
  else if letter = 'm' ∧ on = true then
    m.complain "can't access tty; job control turned off".toList
  else m.turn letter on

/-- Turns an option of a name on or off. -/
def turnName (name : List Char) (on : Bool) (m : Machine) : Machine :=
  match optionNames.lookup (String.ofList name) with
  | some (some letter) => turnLetter letter on m
  | some none => m
  | none => m.abort ("Illegal option -o ".toList ++ name)

/-- Turns the options of some letters on or off; the letter for a name takes the next argument. Gives the
    arguments that are left. -/
def turnLetters (on : Bool) : List Char → List (List Char) → Machine → List (List Char) × Machine
  | [], arguments, m => (arguments, m)
  | 'o' :: letters, [], m =>
      turnLetters on letters [] (m.write 1 (if on then optionListing m else optionCommands m))
  | 'o' :: letters, name :: arguments, m => turnLetters on letters arguments (turnName name on m)
  | letter :: letters, arguments, m => turnLetters on letters arguments (turnLetter letter on m)

/-- Sets options, and gives the arguments that are left if there are any that count; `fuel` bounds the
    number of arguments. -/
def setOptions : Nat → List (List Char) → Machine → Option (List (List Char)) × Machine
  | 0, _, m => (none, m)
  | fuel + 1, arguments, m =>
      if !m.goesOn then (none, m)
      else
        match arguments with
        | ['-'] :: rest => (if rest.isEmpty then none else some rest, (m.turn 'x' false).turn 'v' false)
        | ['-', '-'] :: rest => (some rest, m)
        | ('-' :: letters) :: rest =>
            let (rest, m) := turnLetters true letters rest m
            setOptions fuel rest m
        | ('+' :: letters) :: rest =>
            let (rest, m) := turnLetters false letters rest m
            setOptions fuel rest m
        | [] => (none, m)
        | arguments => (some arguments, m)

/-- Sets options and arguments, or shows the variables. -/
def set : Builtin := fun arguments m =>
  if arguments.isEmpty then print "set" (listing "" m (m.scope.vars.map (·.1))) m
  else
    let (rest, m) := setOptions (arguments.length + 1) arguments m
    if m.goesOn then
      (match rest with
        | some rest => withArguments rest m
        | none => m).withStatus 0
    else m

/-! ## Options of a script -/

/-- What is looked at for options: the rest of an argument, if one is left, and where it was found. -/
structure OptionPlace where
  /-- The argument that comes next, counted from one. -/
  index : Nat
  /-- How much of the argument before it has been read. -/
  offset : Option Nat

/-- What an option is found to be. -/
inductive FoundOption where
  /-- There are no more options. -/
  | none
  | unknown (letter : Char)
  | valueless (letter : Char)
  | found (letter : Char) (value : List Char)

/-- Looks for the next option. -/
def OptionPlace.next (place : OptionPlace) (known : List Char) (arguments : List (List Char)) :
    FoundOption × OptionPlace :=
  let rest := match place.offset, place.index with
    | some offset, index + 2 => (arguments[index]?.getD []).drop offset
    | _, _ => []
  let fresh := if rest.isEmpty then arguments[place.index - 1]? else some ('-' :: rest)
  let index := if rest.isEmpty then place.index + 1 else place.index
  match fresh with
  | some ['-', '-'] =>
      if rest.isEmpty then (.none, ⟨index, Option.none⟩) else (.unknown '-', ⟨index, Option.none⟩)
  | some ('-' :: letter :: letters) =>
      let offset := if letters.isEmpty then Option.none
        else (arguments[index - 2]?).map fun argument => argument.length - letters.length
      let after := known.dropWhile (· != letter)
      if letter = ':' ∨ after.isEmpty then (.unknown letter, ⟨index, offset⟩)
      else if (after.drop 1).head? = some ':' then
        if !letters.isEmpty then (.found letter letters, ⟨index, Option.none⟩)
        else
          match arguments[index - 1]? with
          | some value => (.found letter value, ⟨index + 1, Option.none⟩)
          | Option.none => (.valueless letter, ⟨index, Option.none⟩)
      else (.found letter [], ⟨index, offset⟩)
  | _ => (.none, ⟨place.index, Option.none⟩)

def FoundOption.keep (isQuiet : Bool) (m : Machine) : FoundOption → Machine × Char
  | none => (m, '?')
  | unknown letter =>
      if isQuiet then (m.assign "OPTARG" [letter], '?')
      else ((m.warn ("Illegal option -".toList ++ [letter])).unset "OPTARG", '?')
  | valueless letter =>
      if isQuiet then (m.assign "OPTARG" [letter], ':')
      else ((m.warn ("No arg for -".toList ++ letter :: " option".toList)).unset "OPTARG", '?')
  | found letter value => (m.assign "OPTARG" value, letter)

/-- Looks for the next option among some arguments, or among those of the shell. -/
def getOption : Builtin
  | known :: name :: others, m =>
      let arguments := if others.isEmpty then m.scope.arguments else others
      let place : OptionPlace :=
        if arguments.length + 1 < m.scope.optionIndex then ⟨1, none⟩
        else ⟨m.scope.optionIndex, m.scope.optionOffset⟩
      let (option, after) := place.next known arguments
      let (m, letter) := option.keep (known.head? == some ':') m
      let m := m.assign "OPTIND" (toString after.index).toList
      let m := m.assign (String.ofList name) [letter]
      let m := { m with scope.optionIndex := after.index, scope.optionOffset := after.offset }
      let isEnd := match option with
        | .none => true
        | _ => false
      if m.goesOn then m.withStatus (if isEnd then 1 else 0) else m
  | _, m => m.abort "Usage: getopts optstring var [arg...]".toList

end CodeBlock.Shell.Builtin
