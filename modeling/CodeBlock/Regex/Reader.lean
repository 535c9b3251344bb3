import CodeBlock.Regex.Basic

set_option autoImplicit false

/-! # Reading regular expressions

There are several ways of writing regular expressions. In the basic one an operator has a backslash
before it, in the extended one a backslash takes the meaning away from an operator; they differ, too, in
what an operator means that has nothing to work on. -/

namespace CodeBlock.Regex

/-! ## Ways of writing -/

/-- What an operator means that has nothing to work on. -/
inductive LoneOperator where
  | isCharacter
  | isError
  | isNothing
  deriving DecidableEq, Repr

/-- A way of writing regular expressions. -/
structure Style where
  /-- Whether operators have a backslash before them, all but the star. -/
  isBasic : Bool
  loneOperator : LoneOperator
  /-- Whether a brace that starts no count stands for itself. -/
  looseBraces : Bool
  /-- Whether a closing parenthesis that closes nothing stands for itself. -/
  looseClosing : Bool
  /-- Whether letters after a backslash stand for control characters, and digits for a code. -/
  controls : Bool
  /-- Whether a backslash takes the meaning from a character between brackets. -/
  bracketEscapes : Bool
  /-- Whether digits after a backslash stand for groups, and letters for kinds of characters. -/
  references : Bool
  /-- Whether capital and small letters count as the same. -/
  folded : Bool
  /-- Whether the lines within a text have a start and an end. -/
  byLine : Bool

/-- Why a text is no regular expression. -/
inductive Failure where
  | unclosedSet
  | unknownClass
  | disorderedRange
  | unclosedGroup
  | unopenedGroup
  | nothingToRepeat
  | unclosedCount
  | badCount
  | tooLarge
  | unknownGroup
  | endsInBackslash
  deriving DecidableEq, Repr

/-- The wording of a failure. -/
def Failure.message : Failure → String
  | unclosedSet => "Unmatched [, [^, [:, [., or [="
  | unknownClass => "Invalid character class name"
  | disorderedRange => "Invalid range end"
  | unclosedGroup => "Unmatched ( or \\("
  | unopenedGroup => "Unmatched ) or \\)"
  | nothingToRepeat => "Invalid preceding regular expression"
  | unclosedCount => "Unmatched \\\x7b"
  | badCount => "Invalid content of \\\x7b\\\x7d"
  | tooLarge => "Regular expression too big"
  | unknownGroup => "Invalid back reference"
  | endsInBackslash => "Trailing backslash"

/-! ## Numbers of characters -/

def digitValue? (base : Nat) (c : Char) : Option Nat :=
  let value? :=
    if c.isDigit then some (c.toNat - '0'.toNat)
    else if 'a' ≤ c ∧ c ≤ 'f' then some (c.toNat - 'a'.toNat + 10)
    else if 'A' ≤ c ∧ c ≤ 'F' then some (c.toNat - 'A'.toNat + 10)
    else none
  value?.filter (· < base)

/-- The character whose code starts a text, in so many digits at most, and what follows. -/
def codedChar? (base most : Nat) (s : List Char) : Option (Char × List Char) :=
  let digits := (s.take most).takeWhile fun c => (digitValue? base c).isSome
  if digits.isEmpty then none
  else
    let code := digits.foldl (fun n c => n * base + (digitValue? base c).getD 0) 0
    some (Char.ofNat (code % 256), s.drop digits.length)

/-- The character that a text after a backslash stands for, if it names a control character or has a
    code, and what follows. -/
def controlChar? : List Char → Option (Char × List Char)
  | 'a' :: rest => some ('\x07', rest)
  | 'f' :: rest => some ('\x0c', rest)
  | 'n' :: rest => some ('\n', rest)
  | 'r' :: rest => some ('\r', rest)
  | 't' :: rest => some ('\t', rest)
  | 'v' :: rest => some ('\x0b', rest)
  | 'c' :: c :: rest => some (Char.ofNat (c.toUpper.toNat ^^^ 64), rest)
  | 'd' :: rest => codedChar? 10 3 rest
  | 'o' :: rest => codedChar? 8 3 rest
  | 'x' :: rest => codedChar? 16 2 rest
  | _ => none

/-! ## Sets of characters -/

/-- The ranges of a class of characters. -/
def classRanges? (name : List Char) : Option (List (Char × Char)) :=
  match String.ofList name with
  | "alpha" => some [('A', 'Z'), ('a', 'z')]
  | "digit" => some [('0', '9')]
  | "alnum" => some [('0', '9'), ('A', 'Z'), ('a', 'z')]
  | "upper" => some [('A', 'Z')]
  | "lower" => some [('a', 'z')]
  | "space" => some [('\t', '\r'), (' ', ' ')]
  | "blank" => some [('\t', '\t'), (' ', ' ')]
  | "punct" => some [('!', '/'), (':', '@'), ('[', '\x60'), ('\x7b', '~')]
  | "print" => some [(' ', '~')]
  | "graph" => some [('!', '~')]
  | "cntrl" => some [('\x00', '\x1f'), ('\x7f', '\x7f')]
  | "xdigit" => some [('0', '9'), ('A', 'F'), ('a', 'f')]
  | _ => none

/-- What stands before a mark and the closing bracket behind it, and what follows them. -/
def untilMark (mark : Char) : List Char → Option (List Char × List Char)
  | [] => none
  | c :: rest =>
      if c = mark ∧ rest.head? = some ']' then some ([], rest.drop 1)
      else (untilMark mark rest).map fun (inside, rest) => (c :: inside, rest)

/-- One character within brackets, and what follows it. -/
def setChar (style : Style) : List Char → Except Failure (Char × List Char)
  | [] => .error .unclosedSet
  | '[' :: '.' :: rest => delimited '.' rest
  | '[' :: '=' :: rest => delimited '=' rest
  | '\\' :: rest =>
      if style.bracketEscapes then
        match if style.controls then controlChar? rest else none, rest with
        | some found, _ => .ok found
        | none, c :: rest => .ok (c, rest)
        | none, [] => .error .unclosedSet
      else if style.controls then
        match controlChar? rest with
        | some found => .ok found
        | none => .ok ('\\', rest)
      else .ok ('\\', rest)
  | c :: rest => .ok (c, rest)
where
  delimited (mark : Char) (rest : List Char) : Except Failure (Char × List Char) :=
    match untilMark mark rest with
    | some ([c], rest) => .ok (c, rest)
    | _ => .error .unclosedSet

/-- The ranges between brackets, and what follows the closing one; `fuel` bounds the text. -/
def setRanges (style : Style) :
    Nat → Bool → List Char → Except Failure (List (Char × Char) × List Char)
  | 0, _, _ => .error .unclosedSet
  | fuel + 1, isFirst, s =>
      match isFirst, s with
      | false, ']' :: rest => .ok ([], rest)
      | _, '[' :: ':' :: rest =>
          match untilMark ':' rest with
          | some (name, rest) =>
              match classRanges? name with
              | some ranges => (setRanges style fuel false rest).map fun (more, rest) =>
                  (ranges ++ more, rest)
              | none => .error .unknownClass
          | none => .error .unclosedSet
      | _, s => do
          let (low, rest) ← setChar style s
          let (high, rest) ← match rest with
            | '-' :: ']' :: rest => .ok (low, '-' :: ']' :: rest)
            | '-' :: rest => setChar style rest
            | rest => .ok (low, rest)
          if high < low then .error .disorderedRange
          else
            let (more, rest) ← setRanges style fuel false rest
            .ok ((low, high) :: more, rest)

/-- The set that a text after an opening bracket starts with, and what follows it. -/
def readSet (style : Style) (s : List Char) : Except Failure (Regex × List Char) := do
  let (negated, s) := match s with
    | '^' :: s => (true, s)
    | s => (false, s)
  let (ranges, rest) ← setRanges style (s.length + 1) true s
  .ok (among negated style.folded ranges, rest)

/-! ## Signs -/

/-- What one or more characters of an expression mean. -/
inductive Sign where
  /-- A part that can be repeated. -/
  | part (r : Regex)
  /-- An edge, which cannot be repeated. -/
  | edge (kind : Edge)
  /-- What a group holds. -/
  | reference (number : Nat)
  /-- A loop, which the given character starts. -/
  | loop (written : Char) (least : Nat) (most : Option Nat)
  | opening
  | closing
  | bar
  /-- A count that is none. -/
  | badCount (why : Failure)
  deriving Repr

def greatestCount : Nat := 32767

/-- What a count says up to its next part: a number, nothing, or something else. -/
inductive CountPart where
  | absent
  | number (n : Nat)
  | other

/-- Reads a part of a count, up to a comma, to the end of the count or to the end of the text. -/
def readCountPart (isBasic : Bool) (s : List Char) : CountPart × List Char :=
  let inside := s.takeWhile fun c => c != ',' && c != (if isBasic then '\\' else '\x7d')
  let rest := s.drop inside.length
  if inside.isEmpty then (if rest.isEmpty then .other else .absent, rest)
  else if inside.all Char.isDigit && !rest.isEmpty then
    (.number (min (greatestCount + 1) (Nat.ofDigitChars 10 inside 0)), rest)
  else (.other, rest)

/-- What follows the end of a count. -/
def afterCount? (isBasic : Bool) : List Char → Option (List Char)
  | '\\' :: '\x7d' :: rest => if isBasic then some rest else none
  | '\x7d' :: rest => if isBasic then none else some rest
  | _ => none

/-- The loop that a text after an opening brace counts, and what follows it. -/
def readCount (style : Style) (s : List Char) : Sign × List Char :=
  let (least, rest) := readCountPart style.isBasic s
  let (most, rest) := match rest with
    | ',' :: rest =>
        let (most, rest) := readCountPart style.isBasic rest
        (some most, rest)
    | rest => (none, rest)
  let wrong := if rest.isEmpty then Failure.unclosedCount else Failure.badCount
  match least, most, afterCount? style.isBasic rest with
  | .absent, none, _ => (.badCount .badCount, s)
  | .other, _, _ => (.badCount wrong, s)
  | _, some .other, _ => (.badCount wrong, s)
  | _, _, none => (.badCount wrong, s)
  | least, most, some rest =>
      let least? := match least with
        | .number n => some n
        | _ => none
      let most? := match most with
        | some (.number n) => some n
        | some _ => none
        | none => least?
      let low := least?.getD 0
      if most?.any (· < low) then (.badCount .badCount, s)
      else if greatestCount < most?.getD low then (.badCount .tooLarge, s)
      else (.loop '\x7b' low most?, rest)

def wordRanges : List (Char × Char) := [('0', '9'), ('A', 'Z'), ('_', '_'), ('a', 'z')]

def blankRanges : List (Char × Char) := [('\t', '\r'), (' ', ' ')]

def itself (style : Style) (c : Char) : Sign := .part (among false style.folded [(c, c)])

/-- What a character means that can be an operator. -/
def operator? (style : Style) (c : Char) (rest : List Char) : Option (Sign × List Char) :=
  match c with
  | '(' => some (.opening, rest)
  | ')' => some (.closing, rest)
  | '|' => some (.bar, rest)
  | '+' => some (.loop '+' 1 none, rest)
  | '?' => some (.loop '?' 0 (some 1), rest)
  | '\x7b' => some (readCount style rest)
  | _ => none

/-- What a text after a backslash means. -/
def escapedSign (style : Style) (s : List Char) : Except Failure (Sign × List Char) :=
  match s with
  | [] => .error .endsInBackslash
  | c :: rest =>
      match if style.isBasic then operator? style c rest else none with
      | some found => .ok found
      | none =>
          match if style.references then meaning? c else none with
          | some sign => .ok (sign, rest)
          | none =>
              match if style.controls then controlChar? s else none with
              | some (d, rest) => .ok (itself style d, rest)
              | none => .ok (itself style c, rest)
where
  meaning? (c : Char) : Option Sign :=
    match c with
    | 'w' => some (.part (among false false wordRanges))
    | 'W' => some (.part (among true false wordRanges))
    | 's' => some (.part (among false false blankRanges))
    | 'S' => some (.part (among true false blankRanges))
    | 'b' => some (.edge .wordEdge)
    | 'B' => some (.edge .noWordEdge)
    | '<' => some (.edge .wordStart)
    | '>' => some (.edge .wordEnd)
    | '\x60' => some (.edge .textStart)
    | '\'' => some (.edge .textEnd)
    | c => if '1' ≤ c ∧ c ≤ '9' then some (.reference (c.toNat - '0'.toNat)) else none

/-- Whether a branch of a basic expression ends before a text. -/
def endsBranch : List Char → Bool
  | [] => true
  | '\\' :: ')' :: _ => true
  | '\\' :: '|' :: _ => true
  | _ => false

/-- The sign that a text starts with, and what follows it. -/
def nextSign (style : Style) (atStart : Bool) (c : Char) (rest : List Char) :
    Except Failure (Sign × List Char) :=
  match c with
  | '\\' => escapedSign style rest
  | '[' => (readSet style rest).map fun (r, rest) => (.part r, rest)
  | '.' => .ok (.part (among true false []), rest)
  | '*' => .ok (.loop '*' 0 none, rest)
  | '^' =>
      if style.isBasic && !atStart then .ok (itself style c, rest)
      else .ok (.edge (if style.byLine then .lineStart else .textStart), rest)
  | '$' =>
      if style.isBasic && !endsBranch rest then .ok (itself style c, rest)
      else .ok (.edge (if style.byLine then .lineEnd else .textEnd), rest)
  | c =>
      match if style.isBasic then none else operator? style c rest with
      | some found => .ok found
      | none => .ok (itself style c, rest)

/-! ## Loops -/

/-- So many parts at most. -/
def atMost (r : Regex) : Nat → Regex
  | 0 => empty
  | n + 1 => either (both r (atMost r n)) empty

/-- So many parts, and then something else. -/
def exactly (r last : Regex) : Nat → Regex
  | 0 => last
  | n + 1 => both r (exactly r last n)

/-- A part as often as a loop says. -/
def repeated (r : Regex) (least : Nat) : Option Nat → Regex
  | none => exactly r (many r) least
  | some most => exactly r (atMost r (most - least)) least

/-! ## Expressions -/

/-- How far an expression has been read. -/
structure Progress where
  rest : List Char
  /-- The number of groups that were opened. -/
  groups : Nat
  /-- The groups that are complete. -/
  complete : List Nat
  /-- The number of groups around the place. -/
  depth : Nat

mutual

/-- Reads branches with bars between them. -/
def readBranches (style : Style) : Nat → Progress → Except Failure (Regex × Progress)
  | 0, _ => .error .tooLarge
  | fuel + 1, p => do
      let (first, p) ← readBranch style fuel true none p
      match p.rest with
      | [] => .ok (first, p)
      | c :: rest =>
          match ← nextSign style false c rest with
          | (.bar, rest) =>
              let (second, p) ← readBranches style fuel { p with rest := rest }
              .ok (either first second, p)
          | _ => .ok (first, p)

/-- Reads the parts of a branch after those that were read; `isStart` says whether a loop would have
    nothing to work on. -/
def readBranch (style : Style) :
    Nat → Bool → Option (Regex × Regex) → Progress → Except Failure (Regex × Progress)
  | 0, _, _, _ => .error .tooLarge
  | fuel + 1, atStart, done, p =>
      let before := match done with
        | none => empty
        | some (before, _) => before
      let whole := match done with
        | none => empty
        | some (before, last) => both before last
      match p.rest with
      | [] => .ok (whole, p)
      | c :: rest => do
          let (sign, after) ← nextSign style (done.isNone && atStart) c rest
          let goOn := fun (r : Regex) (p : Progress) =>
            readBranch style fuel atStart (some (whole, r)) p
          match sign with
          | .bar => .ok (whole, p)
          | .closing =>
              if p.depth = 0 then
                if style.looseClosing then
                  match itself style ')' with
                  | .part r => goOn r { p with rest := after }
                  | _ => .ok (whole, p)
                else .error .unopenedGroup
              else .ok (whole, p)
          | .opening =>
              let number := p.groups + 1
              let (inner, q) ← readBranches style fuel
                { p with rest := after, groups := number, depth := p.depth + 1 }
              match q.rest with
              | [] => .error .unclosedGroup
              | d :: more =>
                  let (_, more) ← nextSign style false d more
                  goOn (group number inner)
                    { q with rest := more, depth := p.depth, complete := number :: q.complete }
          | .part r => goOn r { p with rest := after }
          | .reference number =>
              if p.complete.contains number then
                goOn (again style.folded number) { p with rest := after }
              else .error .unknownGroup
          | .edge kind =>
              -- an edge is no part that a loop could work on
              let (more, q) ← readBranch style fuel false none { p with rest := after }
              .ok (both whole (both (edge kind) more), q)
          | .badCount why =>
              if style.looseBraces then
                goOn (among false false [(c, c)]) { p with rest := rest }
              else if done.isNone then .error .nothingToRepeat
              else .error why
          | .loop written least most =>
              match done with
              | some (_, last) =>
                  readBranch style fuel atStart (some (before, repeated last least most))
                    { p with rest := after }
              | none =>
                  match style.loneOperator with
                  | .isCharacter =>
                      if written = '\x7b' then .error .nothingToRepeat
                      else goOn (among false false [(written, written)]) { p with rest := after }
                  | .isError => .error .nothingToRepeat
                  | .isNothing => readBranch style fuel atStart none { p with rest := after }

end


/-- The expression that a text is. -/
def ofText (style : Style) (s : List Char) : Except Failure Regex :=
  (readBranches style (4 * s.length + 4) ⟨s, 0, [], 0⟩).map (·.1)

/-! ## The usual ways of writing -/

/-- Basic expressions of the editor of lines. -/
def Style.basic : Style := {
  isBasic := true, loneOperator := .isCharacter, looseBraces := false, looseClosing := false
  controls := true, bracketEscapes := false, references := true, folded := false, byLine := false }

/-- Extended expressions of the editor of lines. -/
def Style.extended : Style := { Style.basic with isBasic := false, loneOperator := .isError }

/-- Basic expressions of the tool that picks lines. -/
def Style.basicPicking : Style := { Style.basic with controls := false }

/-- Extended expressions of the tool that picks lines. -/
def Style.extendedPicking : Style := {
  Style.basicPicking with
  isBasic := false, loneOperator := .isNothing, looseBraces := true, looseClosing := true }

end CodeBlock.Regex
