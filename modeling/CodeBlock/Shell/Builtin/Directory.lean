import CodeBlock.Shell.Builtin.Basic

set_option autoImplicit false

/-! # The working directory and the mask

Commands that change and show the directory where paths start, and the permissions that new files do not
get. -/

namespace CodeBlock.Shell.Builtin

/-! ## The working directory -/

def pathOf (place : FilePlace) : List Char :=
  if place.isEmpty then ['/'] else Machine.inside (String.join (place.map ("/" ++ ·)))

/-- Whether a path is not looked for in other directories: it starts at the root, in the working directory
    or above it. -/
def isAnchored (path : List Char) : Bool :=
  match path with
  | '/' :: _ => true
  | ['.'] => true
  | '.' :: '/' :: _ => true
  | ['.', '.'] => true
  | '.' :: '.' :: '/' :: _ => true
  | _ => false

/-- The directory that a path leads to, and whether it was found in one of the directories of the search
    list. -/
def directoryAt? (m : Machine) (path : List Char) : Option (FilePlace × Bool) :=
  let place? := fun (path : List Char) =>
    ((m.tree.locate (Machine.outside path)).toOption).filter m.files.isDirectory
  let starts := match isAnchored path, m.get? "CDPATH" with
    | false, some list => Text.splitAll ':' list
    | _, _ => []
  let found := starts.findSome? fun start =>
    let joined := if start.isEmpty then path
      else if start.getLast? = some '/' then start ++ path
      else start ++ '/' :: path
    (place? joined).map fun place => (place, !start.isEmpty)
  found.or ((place? path).map fun place => (place, false))

/-- Changes the working directory. -/
def cd : Builtin := withOptions [('L', false), ('P', false)] fun _ operands m =>
  let isBack := operands.head? == some ['-']
  let path := match operands with
    | ['-'] :: _ => (m.get? "OLDPWD").getD []
    | path :: _ => path
    | [] => (m.get? "HOME").getD []
  match directoryAt? m (if path.isEmpty then ['.'] else path) with
  | none => m.abort ("can't cd to ".toList ++ path)
  | some (place, isElsewhere) =>
      let inner := (m.assign "OLDPWD" (pathOf m.scope.working)).publish "OLDPWD"
      let inner := { inner with scope.working := place }
      let inner := if inner.goesOn then (inner.assign "PWD" (pathOf place)).publish "PWD" else inner
      if !inner.goesOn then { inner with scope := m.scope }
      else if isBack || isElsewhere then print "cd" (pathOf place ++ ['\n']) inner
      else inner.withStatus 0

/-- Prints the working directory. -/
def pwd : Builtin := withOptions [('L', false), ('P', false)] fun _ _ m =>
  print "pwd" (pathOf m.scope.working ++ ['\n']) m

/-! ## The mask -/

/-- The digits of a number of three places to the base of eight. -/
def octal (n : Nat) : List Char := [n / 64 % 8, n / 8 % 8, n % 8].map Nat.digitChar

def permissionLetters (bits : Nat) : List Char :=
  (if bits / 4 % 2 = 1 then ['r'] else []) ++ (if bits / 2 % 2 = 1 then ['w'] else []) ++
    (if bits % 2 = 1 then ['x'] else [])

def permissionText (bits : Nat) : List Char :=
  "u=".toList ++ permissionLetters (bits / 64) ++ ",g=".toList ++ permissionLetters (bits / 8) ++
    ",o=".toList ++ permissionLetters bits

/-- The permissions that a letter stands for, for every class of users. -/
def letterBits (bits : Nat) (letter : Char) : Option Nat :=
  match letter with
  | 'r' => some 0o444
  | 'w' => some 0o222
  | 'x' => some 0o111
  | 'X' => some (if bits &&& 0o111 = 0 then 0 else 0o111)
  | 's' => some 0
  | 't' => some 0
  | 'u' => some (bits / 64 % 8 * 0o111)
  | 'g' => some (bits / 8 % 8 * 0o111)
  | 'o' => some (bits % 8 * 0o111)
  | _ => none

def classBits : Char → Option Nat
  | 'u' => some 0o700
  | 'g' => some 0o070
  | 'o' => some 0o007
  | 'a' => some 0o777
  | _ => none

/-- What signs with permissions, for some classes of users, make of permissions; `fuel` bounds the number
    of signs. -/
def applyActions (who : Nat) : Nat → List Char → Nat → Option Nat
  | 0, _, bits => some bits
  | _ + 1, [], bits => some bits
  | fuel + 1, sign :: rest, bits => do
      let (letters, rest) := rest.span fun c => c != '+' && c != '-' && c != '='
      let given ← letters.mapM (letterBits bits)
      let chosen := given.foldl (· ||| ·) 0 &&& who
      match sign with
      | '+' => applyActions who fuel rest (bits ||| chosen)
      | '-' => applyActions who fuel rest (bits &&& (0o777 - chosen))
      | '=' => applyActions who fuel rest (bits &&& (0o777 - who) ||| chosen)
      | _ => none

/-- What a mode makes of permissions; `everyone` is what it is about where it names no class of users. -/
def applyMode (everyone : Nat) (mode : List Char) (bits : Nat) : Option Nat :=
  (Text.splitAll ',' mode).foldlM (fun bits clause => do
    let (classes, actions) := clause.span fun c => (classBits c).isSome
    if actions.isEmpty then none
    else
      let who := classes.foldl (fun who c => who ||| (classBits c).getD 0) 0
      applyActions (if classes.isEmpty then everyone else who) (actions.length + 1) actions bits) bits

/-- Shows or sets the mask. -/
def umask : Builtin := withOptions [('S', false)] fun options operands m =>
  match operands with
  | [] =>
      let text := if options.isEmpty then '0' :: octal m.scope.mask
        else permissionText (0o777 - m.scope.mask)
      print "umask" (text ++ ['\n']) m
  | mode :: _ =>
      if mode.head?.any Char.isDigit then
        if mode.all fun c => '0' ≤ c && c ≤ '7' then
          { m with scope.mask := ofDigits 8 mode % 512, status := 0 }
        else m.abort (notNumber mode)
      else
        match applyMode 0o777 mode (0o777 - m.scope.mask) with
        | some bits => { m with scope.mask := 0o777 - bits, status := 0 }
        | none => m.abort ("Illegal mode: ".toList ++ mode)

end CodeBlock.Shell.Builtin
