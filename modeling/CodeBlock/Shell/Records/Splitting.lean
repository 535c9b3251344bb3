import CodeBlock.Regex.Basic
import CodeBlock.Text.Split

set_option autoImplicit false

/-! # Records and fields

A text is cut into records, and a record into fields. What stands between them is a character, whatever
fits an expression, or blanks; blanks before the first field and behind the last one do not count. -/

namespace CodeBlock.Shell.Records

/-- What stands between fields. -/
inductive Separator where
  | blanks
  /-- Nothing: each character is a field. -/
  | nothing
  | character (c : Char)
  | fitting (r : Regex)

/-- What stands between records. -/
inductive RecordEnd where
  | character (c : Char)
  /-- Empty lines. -/
  | emptyLines
  | fitting (r : Regex)

/-- Whether a character stands between fields that blanks separate. -/
def separatesFields (c : Char) : Bool := c == ' ' || c == '\t' || c == '\n'

/-- The parts of a text between blanks. -/
def splitAtBlanks : Nat → List Char → List (List Char)
  | 0, _ => []
  | fuel + 1, s =>
      let s := s.dropWhile separatesFields
      if s.isEmpty then []
      else
        let part := s.takeWhile fun c => !separatesFields c
        part :: splitAtBlanks fuel (s.drop part.length)

/-- The first part of a text that fits and is not empty. -/
def findNonempty? (r : Regex) : Nat → Cursor → Option Regex.Finding
  | 0, _ => none
  | fuel + 1, c =>
      match r.find? c with
      | some f =>
          if f.start.offset < f.stop.offset then some f
          else if f.stop.rest.isEmpty then none
          else findNonempty? r fuel (f.start.advance 1)
      | none => none

/-- The parts of a text between those that fit. -/
def splitAtFitting (r : Regex) : Nat → Cursor → List (List Char)
  | 0, c => [c.rest]
  | fuel + 1, c =>
      match findNonempty? r (c.rest.length + 1) c with
      | some f =>
          c.rest.take (f.start.offset - c.offset) :: splitAtFitting r fuel f.stop
      | none => [c.rest]

/-- The fields of a text. -/
def Separator.split (separator : Separator) (s : List Char) : List (List Char) :=
  if s.isEmpty then []
  else
    match separator with
    | .blanks => splitAtBlanks (s.length + 1) s
    | .nothing => s.map ([·])
    | .character c => Text.splitAll c s
    | .fitting r => splitAtFitting r (s.length + 1) (.atStart s)

/-- The first record of a text, and what follows it. -/
def RecordEnd.first? (ending : RecordEnd) (s : List Char) : Option (List Char × List Char) :=
  match ending with
  | .character c =>
      if s.isEmpty then none
      else
        let record := s.takeWhile (· != c)
        some (record, s.drop (record.length + 1))
  | .emptyLines =>
      let s := s.dropWhile (· == '\n')
      if s.isEmpty then none
      else
        let (record, rest) := untilEmptyLine s
        some (record, rest.dropWhile (· == '\n'))
  | .fitting r =>
      if s.isEmpty then none
      else
        match findNonempty? r (s.length + 1) (.atStart s) with
        | some f => some (s.take f.start.offset, f.stop.rest)
        | none => some (s, [])
where
  untilEmptyLine : List Char → List Char × List Char
    | [] => ([], [])
    | '\n' :: rest =>
        if rest.isEmpty || rest.head? = some '\n' then ([], rest)
        else
          let (record, rest) := untilEmptyLine rest
          ('\n' :: record, rest)
    | c :: rest =>
        let (record, rest) := untilEmptyLine rest
        (c :: record, rest)

end CodeBlock.Shell.Records
