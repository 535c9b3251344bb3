import CodeBlock.Shell.Word

set_option autoImplicit false

/-! # Texts that are read

Commands are read from a text with the number of the line that is read. A line that ends in a backslash
is joined with the next one before anything else is looked at. What an alias stands for is put in front
of the rest, and a text that stands in the command is taken out of the lines that follow. -/

namespace CodeBlock.Shell

/-- An alias whose text is being read. -/
structure OpenAlias where
  name : List Char
  /-- How long the text is that follows. -/
  following : Nat
  /-- Whether the word that follows may be an alias, too. -/
  widens : Bool
  deriving Repr

/-- A token of the language. -/
inductive Token where
  | ending
  | newline
  | operator (sign : String)
  /-- The sign of a redirection, and the descriptor it is about. -/
  | redirection (descriptor : Nat) (sign : String)
  | keyword (text : String)
  | word (word : Word)

/-- What is left to be read. -/
structure Source where
  rest : List Char
  /-- The number of the line that is read. -/
  line : Nat
  /-- How many lines were taken out after the line that is read. -/
  taken : Nat
  /-- A token that was looked at and is still to be read. -/
  pending : Option Token
  aliases : List (List Char × List Char)
  openAliases : List OpenAlias

/-- A text from its first line on. -/
def Source.ofText (aliases : List (List Char × List Char)) (text : List Char) : Source :=
  ⟨text, 1, 0, none, aliases, []⟩

/-- Why reading stopped, and in which line. -/
structure ReadFailure where
  cause : SyntaxError
  line : Nat
  deriving Repr

/-- Reads something from a text. -/
abbrev Reading := StateT Source (Except ReadFailure)

/-- The number of joined line ends that a text starts with, and what follows them. -/
def skipJoints : List Char → Nat × List Char
  | '\\' :: '\n' :: rest => ((skipJoints rest).1 + 1, (skipJoints rest).2)
  | s => (0, s)

/-- Only a backslash starts a joined line end. -/
theorem skipJoints_of_ne {c : Char} {rest : List Char} (h : c ≠ '\\') :
    skipJoints (c :: rest) = (0, c :: rest) := by
  unfold skipJoints
  split
  · simp_all
  · rfl

namespace Reading

def fail {α : Type} (cause : SyntaxError) : Reading α := fun s => .error ⟨cause, s.line⟩

/-- The next character, without the line ends before it that are joined. -/
def peek? : Reading (Option Char) := fun s =>
  let (joints, rest) := skipJoints s.rest
  .ok (rest.head?, { s with rest := rest, line := s.line + joints })

/-- The next character, whatever it is. -/
def head? : Reading (Option Char) := return (← get).rest.head?

/-- Goes past a character. -/
def drop : Reading Unit := modify fun s =>
  { s with rest := s.rest.drop 1, line := if s.rest.head? = some '\n' then s.line + 1 else s.line }

/-- Goes past the next character if it is a certain one. -/
def take? (c : Char) : Reading Bool := do
  if (← peek?) = some c then
    drop
    return true
  else return false

/-- The characters that follow and fit, with the lines joined; `fuel` bounds their number. -/
def takeWhile (p : Char → Bool) : Nat → Reading (List Char)
  | 0 => return []
  | fuel + 1 => do
      match ← peek? with
      | some c =>
          if p c then
            drop
            return c :: (← takeWhile p fuel)
          else return []
      | none => return []

/-- Skips blanks and a comment; `fuel` bounds their number. -/
def skipSpace : Nat → Reading Unit
  | 0 => return ()
  | fuel + 1 => do
      match ← peek? with
      | some ' ' =>
          drop
          skipSpace fuel
      | some '\t' =>
          drop
          skipSpace fuel
      | some '#' => modify fun s => { s with rest := s.rest.dropWhile (· != '\n') }
      | _ => return ()

/-- Closes the aliases whose texts have been read to their ends, and says whether the next word may be an
    alias for that. -/
def closeAliases : Reading Bool := do
  let s ← get
  if s.openAliases.isEmpty then return false
  else
    let length := s.rest.length
    let (closed, still) := s.openAliases.partition fun a => decide (length ≤ a.following)
    set { s with openAliases := still }
    return closed.any (·.widens)

/-- The text that an alias stands for, unless it is being read. -/
def aliasText? (name : List Char) : Reading (Option (List Char)) := do
  let s ← get
  let length := s.rest.length
  if s.openAliases.any fun a => a.name == name && decide (a.following < length) then return none
  else return s.aliases.lookup name

/-- Puts the text of an alias in front of what is left. -/
def openAlias (name text : List Char) : Reading Unit := modify fun s =>
  if text.isEmpty then s
  else
    let widens := text.getLast? == some ' ' || text.getLast? == some '\t'
    { s with
      rest := text ++ s.rest
      openAliases := ⟨name, s.rest.length, widens⟩ :: s.openAliases }

end Reading

/-! ## Texts that stand in a command -/

/-- What keeps a line end from ending a line. -/
inductive Enclosure where
  | single
  | double
  | backquoted
  /-- A parameter in braces, between double quotes or not. -/
  | braces (isQuoted : Bool)
  | command
  | arithmetic
  deriving DecidableEq, Repr

/-- Where the search for the end of a line stands. -/
structure LineState where
  /-- What is open, the innermost first. -/
  inside : List Enclosure
  /-- The character before, or a letter for one that does not stand for itself any more. -/
  before : Char
  isEscaped : Bool
  isComment : Bool

namespace LineState

/-- The state at a place where nothing is open. -/
def start : LineState := ⟨[], ' ', false, false⟩

def canEnd (s : LineState) : Bool := s.inside.isEmpty && !s.isEscaped

/-- What is open after a character that is not escaped. -/
def enclosuresAfter (s : LineState) (c : Char) : List Enclosure :=
  match s.inside, c with
  | .single :: outer, '\'' => outer
  | .single :: outer, _ => .single :: outer
  | .backquoted :: outer, '\x60' => outer
  | .backquoted :: outer, _ => .backquoted :: outer
  | inside, '\x60' => .backquoted :: inside
  | .double :: outer, '"' => outer
  | .arithmetic :: outer, '"' => .arithmetic :: outer
  | inside, '"' => .double :: inside
  | .double :: outer, '\'' => .double :: outer
  | .arithmetic :: outer, '\'' => .arithmetic :: outer
  | .braces true :: outer, '\'' => .braces true :: outer
  | inside, '\'' => .single :: inside
  | .braces _ :: outer, '}' => outer
  | .command :: outer, ')' => outer
  | .arithmetic :: outer, ')' => outer
  | inside, '{' =>
      if s.before = '$' then
        let isQuoted := match inside with
          | .double :: _ | .braces true :: _ => true
          | _ => false
        .braces isQuoted :: inside
      else inside
  | inside, '(' =>
      if s.before = '$' then .command :: inside
      else
        match inside with
        | .command :: _ => (if s.before = '(' then .arithmetic else .command) :: inside
        | .arithmetic :: _ => .arithmetic :: inside
        | _ => inside
  | inside, _ => inside

/-- The state after a character. -/
def next (s : LineState) (c : Char) : LineState :=
  if s.isComment then s
  else if s.isEscaped then { s with before := 'x', isEscaped := false }
  else if c = '\\' ∧ s.inside.head? ≠ some .single then { s with before := 'x', isEscaped := true }
  else if c = '#' && s.inside.isEmpty && endsWord s.before then { s with isComment := true }
  else
    { s with
      inside := s.enclosuresAfter c
      before := if c = '$' ∧ s.before = '$' then 'x' else c }

end LineState

/-- The line that is left up to its end, and what follows it if it has one. -/
def spanLine : LineState → List Char → List Char × Option (List Char)
  | _, [] => ([], none)
  | state, c :: rest =>
      if c = '\n' && state.canEnd then ([], some rest)
      else
        let (line, rest) := spanLine (state.next c) rest
        (c :: line, rest)

/-- The next line of a text with its end, joined with those that follow if `joins`; what follows it; and
    the number of lines that it took. -/
def spanJoined (joins : Bool) : Bool → List Char → List Char × List Char × Nat
  | _, [] => ([], [], 0)
  | escaped, c :: rest =>
      if c = '\n' then
        if joins && escaped then
          let (line, rest, lines) := spanJoined joins false rest
          (c :: line, rest, lines + 1)
        else ([c], rest, 1)
      else
        let (line, rest, lines) := spanJoined joins (c == '\\' && !escaped) rest
        (c :: line, rest, lines)

/-- A text that starts a line of another one, up to the line that ends it; what follows that line; and the
    number of lines that they took. -/
def spanHere (mark : List Char) (tabs joins : Bool) :
    Nat → List Char → List Char × List Char × Nat
  | 0, s => ([], s, 0)
  | _ + 1, [] => ([], [], 0)
  | fuel + 1, s =>
      let (line, rest, lines) := spanJoined joins false s
      let line := if tabs then line.dropWhile (· == '\t') else line
      if line = mark ∨ line = mark ++ ['\n'] then ([], rest, lines)
      else
        let (text, rest, more) := spanHere mark tabs joins fuel rest
        (line ++ text, rest, lines + more)

/-- Takes a text that stands in the command out of the lines that follow the one that is read. -/
def Reading.takeHere (mark : List Char) (tabs joins : Bool) : Reading (List Char) := fun s =>
  match spanLine .start s.rest with
  | (_, none) => .ok ([], s)
  | (line, some after) =>
      let (text, after, lines) := spanHere mark tabs joins (after.length + 1) after
      .ok (text, { s with rest := line ++ '\n' :: after, taken := s.taken + lines })

end CodeBlock.Shell
