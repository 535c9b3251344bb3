import CodeBlock.Shell.Names

set_option autoImplicit false

/-! # Expanding words

A word is expanded to fields when it is used: variables, calculations and outputs of commands take the
place of what stands for them, what they gave is cut at separators unless it was quoted, and a field
that is a pattern becomes the names that look like it. -/

namespace CodeBlock.Shell

/-- A part of an expanded word before it is cut. -/
inductive Letter where
  | char (c : Char) (isQuoted : Bool)
  /-- A character that something unquoted gave, at which the word may be cut. -/
  | given (c : Char)
  /-- Something quoted, which makes a field even if it is empty. -/
  | something
  /-- The end of a field. -/
  | fieldEnd
  deriving DecidableEq, Repr

/-- What runs a command and gives its output. -/
abbrev Substitution := Command → Machine → List Char × Machine

/-- A given text as part of a word. -/
def lettersOf (isQuoted : Bool) (s : List Char) : List Letter :=
  if isQuoted then .something :: s.map (.char · true) else s.map .given

def textOfLetters (letters : List Letter) : List Char :=
  letters.flatMap fun
    | .char c _ => [c]
    | .given c => [c]
    | .something => []
    | .fieldEnd => [' ']

/-- The characters of letters, with whether they are quoted. -/
def markedOf (letters : List Letter) : List (Char × Bool) :=
  letters.flatMap fun
    | .char c q => [(c, q)]
    | .given c => [(c, false)]
    | .something => []
    | .fieldEnd => [(' ', false)]

/-- Letters as something unquoted gives them. -/
def asGiven (letters : List Letter) : List Letter :=
  letters.map fun
    | .char c false => .given c
    | letter => letter

/-! ## Parameters -/

/-- The arguments in a row, with a letter of the first separator between them. -/
def joinedArguments (m : Machine) : List Char :=
  (m.scope.arguments.intersperse (m.separators.take 1)).flatten

/-- The options of the shell and their letters, in order. -/
def optionNames : List (String × Option Char) :=
  [("errexit", some 'e'), ("noglob", some 'f'), ("ignoreeof", some 'I'), ("interactive", some 'i'),
    ("monitor", some 'm'), ("noexec", some 'n'), ("stdin", some 's'), ("xtrace", some 'x'),
    ("verbose", some 'v'), ("vi", some 'V'), ("emacs", some 'E'), ("noclobber", some 'C'),
    ("allexport", some 'a'), ("notify", some 'b'), ("nounset", some 'u'), ("privileged", some 'p'),
    ("nolog", none), ("debug", none)]

/-- The text of a parameter. -/
def parameterText? (m : Machine) (name : List Char) : Option (List Char) :=
  match name with
  | ['#'] => some (toString m.scope.arguments.length).toList
  | ['?'] => some (toString m.status).toList
  | ['$'] => some (toString m.scope.process).toList
  | ['!'] => m.scope.jobs.head?.map fun job => (toString job.process).toList
  | ['-'] => some ((optionNames.filterMap (·.2)).reverse.filter m.isOn)
  | ['0'] => some m.scope.name
  | ['*'] => some (joinedArguments m)
  | ['@'] => some (joinedArguments m)
  | c :: _ =>
      if c.isDigit then
        match ofDigits 10 name with
        | 0 => some m.scope.name
        | n + 1 => m.scope.arguments[n]?
      else m.get? (String.ofList name)
  | [] => none

/-- The letters of a parameter that is used as it is; `cut` says that the word is cut into fields. -/
def parameterLetters (m : Machine) (cut : Bool) (name : List Char) (isQuoted : Bool) : List Letter :=
  if name = ['@'] ∧ isQuoted = true ∧ cut = true then
    ((m.scope.arguments.map (lettersOf true)).intersperse [.fieldEnd]).flatten
  else if (name = ['@'] ∨ name = ['*']) ∧ isQuoted = false ∧ cut = true then
    ((m.scope.arguments.map (lettersOf false)).intersperse [.fieldEnd]).flatten
  else lettersOf isQuoted ((parameterText? m name).getD [])

/-- Stops because of a parameter. -/
def abortFor (m : Machine) (name reason : List Char) : Machine := m.abort (name ++ ": ".toList ++ reason)

/-- Stops because there is no value, if that is an error. -/
def demand (m : Machine) (name : List Char) (value : Option (List Char)) : Machine :=
  if value.isNone && m.isOn 'u' then abortFor m name "parameter not set".toList else m

/-- The home directory of the user of a name. -/
def homeOf? : String → Option String
  | "root" => some "/root"
  | "daemon" => some "/usr/sbin"
  | "bin" => some "/bin"
  | "nobody" => some "/nonexistent"
  | _ => none

/-- The letters of the home directory of a user; of one who is not known, those that were written. -/
def homeLetters (m : Machine) (user : List Char) : List Letter :=
  let home := if user.isEmpty then m.get? "HOME" else (homeOf? (String.ofList user)).map (·.toList)
  match home with
  | some home => lettersOf true home
  | none => ('~' :: user).map (.char · false)

def inPlace (isQuoted : Bool) (expanded : List Letter × Machine) : List Letter × Machine :=
  (if isQuoted then .something :: expanded.1 else asGiven expanded.1, expanded.2)

/-! ## Segments -/

section

variable (substitute : Substitution)

mutual

/-- The letters of the segments of a word; `cut` says that the word is cut into fields. -/
def expandSegments (cut : Bool) : List Segment → Machine → List Letter × Machine
  | [], m => ([], m)
  | segment :: word, m =>
      if m.goesOn then
        let (letters, m) := expandSegment cut segment m
        let (others, m) := expandSegments cut word m
        (letters ++ others, m)
      else ([], m)

/-- The letters of a segment. -/
def expandSegment (cut : Bool) : Segment → Machine → List Letter × Machine
  | .plain c, m => ([.char c false], m)
  | .quoted c, m => ([.char c true], m)
  | .quotes, m => ([.something], m)
  | .home user, m => (homeLetters m user, m)
  | .output body isQuoted, m =>
      let (text, m) := substitute body m
      let text := (text.filter (· != '\x00')).reverse.dropWhile (· == '\n')
      (lettersOf isQuoted text.reverse, m)
  | .number expression isQuoted, m =>
      let (letters, m) := expandSegments false expression m
      let expression := textOfLetters letters
      if !m.goesOn then ([], m)
      else
        match calculate m.scope.vars expression with
        | .ok (n, changes) =>
            (lettersOf isQuoted (toString n.toInt).toList,
              changes.reverse.foldl
                (fun m (name, value) => if m.goesOn then m.assign name value else m) m)
        | .error e => ([], m.abort (e.message expression))
  | .parameter name adjustment isQuoted, m => expandParameter cut name isQuoted adjustment m

/-- The letters of a parameter. -/
def expandParameter (cut : Bool) (name : List Char) (isQuoted : Bool) :
    Adjustment → Machine → List Letter × Machine
  | .plain, m =>
      (parameterLetters m cut name isQuoted, demand m name (parameterText? m name))
  | .length, m =>
      let value := parameterText? m name
      (lettersOf isQuoted (toString (value.getD []).length).toList, demand m name value)
  | .senseless, m => ([], m.abort "Bad substitution".toList)
  | .replaced replacement blank word, m =>
      let value := parameterText? m name
      let isSet := value.isSome && !(blank && value == some [])
      match replacement, isSet with
      | .instead, false => ([], m)
      | .instead, true => inPlace isQuoted (expandSegments cut word m)
      | .otherwise, false => inPlace isQuoted (expandSegments cut word m)
      | .assigning, false =>
          let (letters, m) := expandSegments false word m
          let text := textOfLetters letters
          if m.goesOn then (lettersOf isQuoted text, m.assign (String.ofList name) text) else ([], m)
      | .refusing, false =>
          let (letters, m) := expandSegments false word m
          let reason := if !word.isEmpty then textOfLetters letters
            else if blank then "parameter not set or null".toList
            else "parameter not set".toList
          ([], if m.goesOn then abortFor m name reason else m)
      | _, true => (parameterLetters m cut name isQuoted, m)
  | .without atStart longest word, m =>
      let value := parameterText? m name
      let m := demand m name value
      if !m.goesOn then ([], m)
      else
        let (letters, m) := expandSegments false word m
        let pattern := Pattern.ofMarked (markedOf letters)
        let isRow := name = ['@'] ∨ (name = ['*'] ∧ isQuoted = false)
        let text := if isRow ∧ cut = true then m.scope.arguments.headD [] else value.getD []
        let trimmed := if atStart then withoutStart? longest pattern text
          else withoutEnd? longest pattern text
        (match trimmed with
          | some text => lettersOf isQuoted text
          | none => parameterLetters m cut name isQuoted, m)

end

/-- The letters of a word; `cut` says that it is cut into fields. -/
def expand (cut : Bool) (word : Word) (m : Machine) : List Letter × Machine :=
  expandSegments substitute cut (withHome (· == '/') word) m

end

/-! ## Fields -/

/-- The fields that letters are cut into. `current` is the field that is being read, last character
    first; `afterBlank` says that the last field was ended by a blank. -/
def cutFields (separators : List Char) (current : Option (List (Char × Bool))) (afterBlank : Bool) :
    List Letter → List (List (Char × Bool))
  | [] => (current.map List.reverse).toList
  | .char c q :: rest => cutFields separators (some ((c, q) :: current.getD [])) false rest
  | .something :: rest => cutFields separators (some (current.getD [])) false rest
  | .fieldEnd :: rest => (current.map List.reverse).toList ++ cutFields separators none true rest
  | .given c :: rest =>
      if separators.contains c then
        if c = ' ' ∨ c = '\t' ∨ c = '\n' then
          match current with
          | some field => field.reverse :: cutFields separators none true rest
          | none => cutFields separators none afterBlank rest
        else if current.isNone && afterBlank then cutFields separators none false rest
        else (current.getD []).reverse :: cutFields separators none false rest
      else cutFields separators (some ((c, false) :: current.getD [])) false rest

section

variable (substitute : Substitution)

def expandFields (word : Word) (m : Machine) : List (List Char) × Machine :=
  let (letters, m) := expand substitute true word m
  ((cutFields m.separators none false letters).flatMap (namesLike m), m)

/-- The fields of some words. -/
def expandAll : List Word → Machine → List (List Char) × Machine
  | [], m => ([], m)
  | word :: words, m =>
      if m.goesOn then
        let (fields, m) := expandFields substitute word m
        let (others, m) := expandAll words m
        (fields ++ others, m)
      else ([], m)

/-- The text of a word, which is not cut. -/
def expandText (word : Word) (m : Machine) : List Char × Machine :=
  let (letters, m) := expand substitute false word m
  (textOfLetters letters, m)

def expandValue (value : Word) (m : Machine) : List Char × Machine :=
  let (letters, m) := expandSegments substitute false (withHomes value) m
  (textOfLetters letters, m)

def expandPattern (word : Word) (m : Machine) : Pattern × Machine :=
  let (letters, m) := expand substitute false word m
  (Pattern.ofMarked (markedOf letters), m)

end

end CodeBlock.Shell
