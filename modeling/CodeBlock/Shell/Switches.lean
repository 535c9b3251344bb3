set_option autoImplicit false

/-! # Switches of programs

The arguments of a program are switches and operands. A switch is a letter after a dash, or a name after
two; letters without values may share a dash. A value stands behind its switch or in the next argument.
After two dashes alone all arguments are operands. -/

namespace CodeBlock.Shell

/-- Whether a switch has a value. -/
inductive SwitchValue where
  | none
  | needed
  /-- A value that stands right behind the switch, or none. -/
  | optional
  deriving DecidableEq, Repr

/-- The switches that a program has: its letters, and names that stand for some of them. -/
structure SwitchTable where
  letters : List (Char × SwitchValue)
  names : List (String × Char)

/-- What is wrong with a switch. -/
inductive SwitchFault where
  | unknownLetter (letter : Char)
  | letterNeedsValue (letter : Char)
  | unknownName (written : List Char)
  | nameNeedsValue (name : String)
  | nameHasNoValue (name : String)
  | unclearName (written : List Char) (names : List String)
  deriving DecidableEq, Repr

/-- The wording of a fault. -/
def SwitchFault.message : SwitchFault → List Char
  | unknownLetter letter => "invalid option -- '".toList ++ [letter, '\'']
  | letterNeedsValue letter => "option requires an argument -- '".toList ++ [letter, '\'']
  | unknownName written => "unrecognized option '--".toList ++ written ++ ['\'']
  | nameNeedsValue name => ("option '--" ++ name ++ "' requires an argument").toList
  | nameHasNoValue name => ("option '--" ++ name ++ "' doesn't allow an argument").toList
  | unclearName written names =>
      "option '--".toList ++ written ++ "' is ambiguous; possibilities:".toList ++
        (names.flatMap fun name => (" '--" ++ name ++ "'").toList)

/-- The arguments of a program, taken apart. -/
structure Switches where
  /-- The switches with their values, in order. -/
  given : List (Char × List Char)
  operands : List (List Char)
  deriving Repr

namespace Switches

/-- Whether a switch was given. -/
def has (s : Switches) (letter : Char) : Bool := s.given.any (·.1 == letter)

def value? (s : Switches) (letter : Char) : Option (List Char) :=
  s.given.foldl (fun found (c, value) => if c = letter then some value else found) none

def values (s : Switches) (letter : Char) : List (List Char) :=
  s.given.filterMap fun (c, value) => if c = letter then some value else none

/-- With one more switch before the others. -/
def push (s : Switches) (letter : Char) (value : List Char) : Switches :=
  { s with given := (letter, value) :: s.given }

end Switches

namespace SwitchTable

/-- The table for letters of which those with a value have a colon behind them, and those that may have
    one two colons. -/
def ofText (letters : String) (names : List (String × Char)) : SwitchTable :=
  ⟨read letters.toList, names⟩
where
  read : List Char → List (Char × SwitchValue)
    | c :: ':' :: ':' :: rest => (c, .optional) :: read rest
    | c :: ':' :: rest => (c, .needed) :: read rest
    | c :: rest => (c, .none) :: read rest
    | [] => []

/-- The name that a written one stands for, with the letter of the switch: a start that just one switch
    has is enough. -/
def find (table : SwitchTable) (written : List Char) : Except SwitchFault (String × Char) :=
  match table.names.find? fun (name, _) => name.toList == written with
  | some found => .ok found
  | none =>
      match table.names.filter fun (name, _) => written.isPrefixOf name.toList with
      | [] => .error (.unknownName written)
      | found :: others =>
          if others.all fun (_, letter) => letter == found.2 then .ok found
          else .error (.unclearName written ((found :: others).map (·.1)))

/-- Takes one group of letters apart: the switches, and the letter that waits for a value in the next
    argument. -/
def readGroup (table : SwitchTable) :
    List Char → Except SwitchFault (List (Char × List Char) × Option Char)
  | [] => .ok ([], none)
  | c :: rest =>
      match table.letters.lookup c with
      | none => .error (.unknownLetter c)
      | some .none => (readGroup table rest).map fun (given, waiting) => ((c, []) :: given, waiting)
      | some .optional => .ok ([(c, rest)], none)
      | some .needed => if rest.isEmpty then .ok ([], some c) else .ok ([(c, rest)], none)

/-- What an argument of a program is. -/
inductive Argument where
  /-- The mark behind which all arguments are operands. -/
  | mark
  | operand
  | switches (given : List (Char × List Char))
  /-- Switches of which the last one has the next argument as its value, and what is wrong if there is
      none. -/
  | waiting (given : List (Char × List Char)) (letter : Char) (fault : SwitchFault)

/-- Takes the name of a switch apart, which may have its value behind a sign. -/
def readName (table : SwitchTable) (written : List Char) : Except SwitchFault Argument := do
  let start := written.takeWhile (· != '=')
  let after := written.drop start.length
  let (name, letter) ← table.find start
  match table.letters.lookup letter, after with
  | some .none, _ :: _ => .error (.nameHasNoValue name)
  | some .needed, [] => .ok (.waiting [] letter (.nameNeedsValue name))
  | _, after => .ok (.switches [(letter, after.drop 1)])

/-- Takes an argument apart. -/
def readArgument (table : SwitchTable) : List Char → Except SwitchFault Argument
  | ['-', '-'] => .ok .mark
  | '-' :: '-' :: written => table.readName written
  | '-' :: c :: letters => do
      match ← table.readGroup (c :: letters) with
      | (given, none) => .ok (.switches given)
      | (given, some letter) => .ok (.waiting given letter (.letterNeedsValue letter))
  | _ => .ok .operand

/-- Takes arguments apart; with `leading`, switches end where the first operand stands. -/
def read (table : SwitchTable) (leading : Bool) : List (List Char) → Except SwitchFault Switches
  | [] => .ok ⟨[], []⟩
  | argument :: rest =>
      match table.readArgument argument with
      | .error fault => .error fault
      | .ok .mark => .ok ⟨[], rest⟩
      | .ok .operand =>
          if leading then .ok ⟨[], argument :: rest⟩
          else (read table leading rest).map fun s => { s with operands := argument :: s.operands }
      | .ok (.switches given) =>
          (read table leading rest).map fun s => { s with given := given ++ s.given }
      | .ok (.waiting given letter fault) =>
          match rest with
          | [] => .error fault
          | value :: rest =>
              (read table leading rest).map fun s => { s with given := given ++ (letter, value) :: s.given }

end SwitchTable

end CodeBlock.Shell
