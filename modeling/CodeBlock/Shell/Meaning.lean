import CodeBlock.Shell.Program

set_option autoImplicit false

/-! # What names stand for

The name of a command is that of a function, of a command of the shell, or of a program, in this order. -/

namespace CodeBlock.Shell

/-- What the name of a command stands for. -/
inductive Meaning where
  | function (line : Nat) (body : Command)
  | builtin (name : String)
  | program (path : List Char)
  | nothing

section

variable (run : Runner)

/-- What a name stands for, functions apart. -/
def ownMeaning (name : List Char) (m : Machine) : Meaning :=
  if Builtin.isKnown (String.ofList name) then .builtin (String.ofList name)
  else
    match programPath? run name m with
    | some path => .program path
    | none => .nothing

/-- What a name stands for. -/
def meaningOf (name : List Char) (m : Machine) : Meaning :=
  match m.scope.functions.lookup (String.ofList name) with
  | some (line, body) => .function line body
  | none => ownMeaning run name m

/-- Says what a name stands for, in a word or more; what is not known is only said in more. -/
def describe (inFull : Bool) (name : List Char) (m : Machine) : Machine :=
  let say := fun (text : List Char) => m.write 1 (text ++ ['\n'])
  let text := String.ofList name
  if reserved.contains text then
    say (if inFull then name ++ " is a shell keyword".toList else name)
  else
    match m.scope.aliases.lookup name, meaningOf run name m with
    | some meaning, _ =>
        if inFull then say (name ++ " is an alias for ".toList ++ meaning)
        else m.write 1 ("alias ".toList ++ Builtin.aliasLine name meaning)
    | none, .function _ _ => say (if inFull then name ++ " is a shell function".toList else name)
    | none, .builtin _ =>
        if !inFull then say name
        else if specialCommands.contains text then say (name ++ " is a special shell builtin".toList)
        else say (name ++ " is a shell builtin".toList)
    | none, .program path =>
        let kind := if (m.scope.found.lookup name).isSome then " is a tracked alias for " else " is "
        say (if inFull then name ++ kind.toList ++ path else path)
    | none, .nothing =>
        (if inFull then say (name ++ ": not found".toList) else m).withStatus 127

/-- Says what some names stand for. -/
def describeAll (names : List (List Char)) (m : Machine) : Machine :=
  names.foldl (fun m name => describe run true name m) (m.withStatus 0)

/-- The command that says what a name stands for. -/
def describing : Builtin :=
  Builtin.withOptions [('p', false), ('v', false), ('V', false)] fun options names m =>
    let asks := options.filter fun (letter, _) => letter != 'p'
    match asks, names with
    | _ :: _, name :: _ =>
        describe run (asks.any fun (letter, _) => letter == 'V') name (m.withStatus 0)
    | _, _ => m.withStatus 0

/-- Remembers where a program was found. -/
def remember (name path : List Char) (m : Machine) : Machine :=
  if name.contains '/' || (m.scope.found.lookup name).isSome then m
  else { m with scope.found := (name, path) :: m.scope.found }

/-- Shows the programs that have been found, forgets them, or finds some. -/
def findAhead : Builtin := Builtin.withOptions [('r', false)] fun options names m =>
  if !options.isEmpty then { m with scope.found := [], status := 0 }
  else if names.isEmpty then Builtin.print "hash" (Builtin.foundListing m) m
  else
    names.foldl (fun m name =>
      match meaningOf run name m with
      | .program path => remember name path m
      | .nothing => m.fail 1 (name ++ ": not found".toList)
      | _ => m) (m.withStatus 0)

end

end CodeBlock.Shell
