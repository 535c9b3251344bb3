import CodeBlock.Shell.Condition
import CodeBlock.Shell.Format
import CodeBlock.Shell.Machine

set_option autoImplicit false

/-! # Commands that the shell carries out itself

These commands change the shell that runs them, or are so common that the shell knows them. Here are what
they have in common, and those that print, decide and leave. -/

namespace CodeBlock.Shell

/-- A command that the shell carries out with some arguments. -/
abbrev Builtin := List (List Char) → Machine → Machine

namespace Builtin

/-! ## Options -/

/-- What is wrong with an option. -/
inductive OptionFault where
  | unknown (letter : Char)
  | needsValue (letter : Char)
  deriving DecidableEq, Repr

def OptionFault.message : OptionFault → List Char
  | unknown letter => "Illegal option -".toList ++ [letter]
  | needsValue letter => "No arg for -".toList ++ letter :: " option".toList

/-- Takes the options off some arguments, after the rest of one with options; `known` says which letters
    there are and whether they have values. `fuel` bounds the number of options. -/
def takeOptions (known : List (Char × Bool)) : Nat → List Char → List (List Char) →
    Except OptionFault (List (Char × List Char) × List (List Char))
  | 0, _, arguments => .ok ([], arguments)
  | fuel + 1, [], arguments =>
      match arguments with
      | ['-', '-'] :: rest => .ok ([], rest)
      | ('-' :: c :: letters) :: rest => takeOptions known fuel (c :: letters) rest
      | arguments => .ok ([], arguments)
  | fuel + 1, c :: letters, arguments =>
      match known.lookup c, letters, arguments with
      | none, _, _ => .error (.unknown c)
      | some false, letters, arguments => do
          let (options, rest) ← takeOptions known fuel letters arguments
          return ((c, []) :: options, rest)
      | some true, [], [] => .error (.needsValue c)
      | some true, [], value :: arguments => do
          let (options, rest) ← takeOptions known fuel [] arguments
          return ((c, value) :: options, rest)
      | some true, value, arguments => do
          let (options, rest) ← takeOptions known fuel [] arguments
          return ((c, value) :: options, rest)

/-- Carries out a command after its options have been taken off. -/
def withOptions (known : List (Char × Bool))
    (f : List (Char × List Char) → List (List Char) → Machine → Machine) : Builtin :=
  fun arguments m =>
    match takeOptions known (arguments.flatten.length + arguments.length + 1) [] arguments with
    | .ok (options, operands) => f options operands m
    | .error fault => m.abort fault.message

/-! ## Numbers and texts -/

def number? (s : List Char) : Option Nat :=
  if s.isEmpty || !s.all Char.isDigit then none else some (ofDigits 10 s)

/-- What is said about a text that should be a number. -/
def notNumber (s : List Char) : List Char := "Illegal number: ".toList ++ s

def withNumber (argument : List Char) (m : Machine) (f : Nat → Machine → Machine) : Machine :=
  match number? argument with
  | some n => f n m
  | none => m.abort (notNumber argument)

/-- A text in quotes, as the shell reads it; `fuel` bounds the number of single quotes in it. -/
def inQuotes : Nat → List Char → List Char
  | 0, s => s
  | fuel + 1, s =>
      let (text, rest) := s.span (· != '\'')
      let (quotes, rest) := rest.span (· == '\'')
      let first := '\'' :: text ++ ['\'']
      if quotes.isEmpty then first
      else
        let second := '"' :: quotes ++ ['"']
        first ++ second ++ (if rest.isEmpty then [] else inQuotes fuel rest)

/-- A text in quotes, as the shell reads it. -/
def shown (s : List Char) : List Char := inQuotes (s.length + 1) s

/-! ## Printing -/

/-- Prints a text; a closed output makes it fail. -/
def print (name : String) (text : List Char) (m : Machine) : Machine :=
  if m.isOpen 1 || text.isEmpty then (m.write 1 text).withStatus 0
  else m.fail 1 (name ++ ": I/O error").toList

/-- Prints a format filled with arguments. -/
def printf : Builtin := withOptions [] fun _ arguments m =>
  match arguments with
  | [] => m.abort "usage: printf format [arg ...]".toList
  | format :: arguments =>
      let printed := formatted format arguments
      let complaints := printed.complaints ++ printed.error.toList
      let m := complaints.foldl (fun m text => m.complain text) m
      let m := print "printf" printed.text m
      if printed.error.isSome then m.withStatus 2
      else if complaints.isEmpty then m
      else m.withStatus 1

/-! ## Conditions -/

/-- Decides whether a condition holds. -/
def test : Builtin := fun words m =>
  match holds m words with
  | .ok b => m.withStatus (if b then 0 else 1)
  | .error e => m.abort e.message

/-- Decides whether a condition between brackets holds; of the last argument only its start counts. -/
def bracket : Builtin := fun arguments m =>
  if (arguments.getLast?.bind (·.head?)) = some ']' then test arguments.dropLast m
  else m.abort "missing ]".toList

/-! ## Leaving -/

/-- Ends the shell, with a status or that of the last command; in the action of a trap, with that of the
    last command before it. -/
def exit : Builtin
  | [], m => { m with flow := .exit, status := m.scope.interrupted.getD m.status }
  | status :: _, m => withNumber status m fun n m => { m with status := n % 256, flow := .exit }

/-- Leaves a function, with a status or that of the last command. -/
def leaveCall : Builtin
  | [], m => { m with flow := .leaveCall }
  | status :: _, m => withNumber status m fun n m => { m with status := n % 256, flow := .leaveCall }

/-- Goes on in another way with so many loops, as far as there are loops. -/
def withLoops (flow : Nat → Flow) : Builtin := fun arguments m =>
  withNumber (arguments.headD ['1']) m fun n m =>
    if n = 0 then m.abort (notNumber (arguments.headD []))
    else if m.scope.loops = 0 then m.withStatus 0
    else { m with status := 0, flow := flow (min n m.scope.loops) }

/-- Drops the first arguments. -/
def shift : Builtin := fun arguments m =>
  withNumber (arguments.headD ['1']) m fun n m =>
    if m.scope.arguments.length < n then m.abort "can't shift that many".toList
    else
      { m with
        scope.arguments := m.scope.arguments.drop n
        scope.optionIndex := 1
        scope.optionOffset := none
        status := 0 }

end Builtin

end CodeBlock.Shell
