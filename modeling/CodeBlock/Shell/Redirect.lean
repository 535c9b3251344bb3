import CodeBlock.Shell.Runner

set_option autoImplicit false

/-! # Redirections

First the words of all redirections are expanded, then the descriptors are connected one after the other,
for the time of a command or for good. -/

namespace CodeBlock.Shell

/-- What a descriptor is to be connected to. -/
inductive Target where
  | file (path : List Char) (use : FileUse)
  /-- What another descriptor is connected to, or nothing. -/
  | copy (descriptor : Option Nat)
  | here (text : Word)

section

variable (run : Runner)

/-- The target of a redirection. -/
def targetOf : Channel → Machine → Option Target × Machine
  | .file path use, m =>
      let (path, m) := expandText (substitute run) path m
      (some (.file path use), m)
  | .here text, m => (some (.here text), m)
  | .copy word, m =>
      let (source, m) := expandText (substitute run) word m
      match source with
      | ['-'] => (some (.copy none), m)
      | [c] =>
          if c.isDigit then (some (.copy (some (c.toNat - '0'.toNat))), m) else (none, m.abort badDescriptor)
      | _ => (none, if m.goesOn then m.abort badDescriptor else m)
where
  badDescriptor : List Char := SyntaxError.badDescriptor.message.toList

/-- The targets of some redirections, with the descriptors they are for. -/
def targetsOf : List Redirection → Machine → List (Nat × Target) × Machine
  | [], m => ([], m)
  | (descriptor, channel) :: redirections, m =>
      if m.goesOn then
        match targetOf run channel m with
        | (some target, m) =>
            let (targets, m) := targetsOf redirections m
            ((descriptor, target) :: targets, m)
        | (none, m) => ([], m)
      else ([], m)

def openingReason (isMade : Bool) : FileError → String
  | .isDirectory => "Is a directory"
  | .nameTooLong => "File name too long"
  | _ => if isMade then "Directory nonexistent" else "No such file"

def connectAs (descriptor source : Nat) (m : Machine) : Machine :=
  match m.scope.descriptors.lookup source with
  | some stream => m.connect descriptor stream
  | none => m.disconnect descriptor

/-- Connects a descriptor to a file. -/
def connectFile (descriptor : Nat) (path : List Char) (use : FileUse) (m : Machine) : Machine :=
  let refuse := fun (action : String) (reason : String) =>
    m.abort ((action ++ " ").toList ++ path ++ (": " ++ reason).toList)
  if path = "/dev/stdin".toList then connectAs descriptor 0 m
  else if path = "/dev/stdout".toList then connectAs descriptor 1 m
  else if path = "/dev/stderr".toList then connectAs descriptor 2 m
  else if use = .read then
    match m.readFile path with
    | .ok text =>
        let (number, m) := m.openBuffer text
        let isFile := !"/dev/".toList.isPrefixOf path
        let m := if isFile then { m with fileBuffers := number :: m.fileBuffers } else m
        m.connect descriptor (.buffer number)
    | .error .isDirectory => m.connect descriptor .nothing
    | .error e => refuse "cannot open" (openingReason false e)
  else if path = "/dev/null".toList then m.connect descriptor .nothing
  else
    match m.placeFor path with
    | .error e => refuse "cannot create" (openingReason true e)
    | .ok place =>
        let before := m.files.content? place
        if use = .write ∧ m.isOn 'C' = true ∧ before.isSome then refuse "cannot create" "File exists"
        else
          let kept := if use = .append ∨ use = .readWrite then before.getD [] else []
          let m := { m with files := m.files.write place kept }
          if use = .readWrite then
            let (number, m) := m.openBuffer (Machine.textOf kept)
            m.connect descriptor (.buffer number)
          else m.connect descriptor (.file place)

/-- Connects a descriptor to its target. -/
def connectTarget (descriptor : Nat) (target : Target) (m : Machine) : Machine :=
  match target with
  | .file path use => connectFile descriptor path use m
  | .copy none => m.disconnect descriptor
  | .copy (some source) =>
      match m.scope.descriptors.lookup source with
      | some stream => m.connect descriptor stream
      | none => m.abort ((toString source).toList ++ ": Bad file descriptor".toList)
  | .here text =>
      let (letters, m) := expandSegments (substitute run) false text m
      if m.goesOn then
        let (number, m) := m.openBuffer (textOfLetters letters)
        m.connect descriptor (.buffer number)
      else m

/-- Connects descriptors to their targets one after the other, and says whether that could be done; an error
    on the way stops nothing else. -/
def connectAll : List (Nat × Target) → Machine → Bool × Machine
  | [], m => (true, m)
  | (descriptor, target) :: targets, m =>
      let m := connectTarget run descriptor target m
      match m.flow with
      | .onward => connectAll targets m
      | .fault => (false, { m with flow := .onward })
      | _ => (false, m)

/-- Runs something with descriptors connected for the time being. -/
def withRedirections (redirections : List Redirection) (f : Machine → Machine) (m : Machine) :
    Machine :=
  let (targets, m) := targetsOf run redirections m
  if !m.goesOn then m
  else
    match connectAll run targets m with
    | (true, inner) => { f inner with scope.descriptors := m.scope.descriptors }
    | (false, inner) => { inner with scope.descriptors := m.scope.descriptors }

end

end CodeBlock.Shell
