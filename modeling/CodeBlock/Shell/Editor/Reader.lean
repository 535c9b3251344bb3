import CodeBlock.Shell.Arithmetic
import CodeBlock.Shell.Editor.Script

set_option autoImplicit false

/-! # Reading scripts of the line editor

A script is given in parts, which follow each other like lines; only a text that is put in may go on in
the next part. What is wrong is reported with the part and the number of its characters that were read
before. -/

namespace CodeBlock.Shell.Editor

/-- What is wrong, and what of the part was not read then. -/
structure Stop where
  cause : Cause
  /-- What is left of the part; nothing if the place does not matter. -/
  rest : Option (List Char)

/-- How a script is read. -/
structure Manner where
  isExtended : Bool

def stop {α : Type} (cause : Cause) (rest : List Char) : Except Stop α := .error ⟨cause, some rest⟩

/-- Whether a character separates words of a script. -/
def isSpace (c : Char) : Bool := c == ' ' || ('\t' ≤ c && c ≤ '\r')

/-- A text without the blanks at its start. -/
def skipSpaces (s : List Char) : List Char := s.dropWhile fun c => c == ' ' || c == '\t'

/-- The number that a text starts with, zero without digits, and what follows. -/
def spanNumber (s : List Char) : Nat × List Char :=
  (ofDigits 10 (s.takeWhile Char.isDigit), s.dropWhile Char.isDigit)

/-! ## Texts between delimiters -/

/-- The characters up to the bracket that closes a set, and what follows; `isFirst` says that a closing
    bracket belongs to the set. -/
def spanSet : Nat → Bool → List Char → Option (List Char × List Char)
  | 0, _, _ => none
  | _ + 1, _, [] => none
  | fuel + 1, isFirst, c :: rest =>
      if c = ']' ∧ isFirst = false then some ([c], rest)
      else if c = '\n' then none
      else
        match c, rest with
        | '[', ':' :: more =>
            match Regex.untilMark ':' more with
            | some (name, rest) => (spanSet fuel false rest).map fun (inside, rest) =>
                ('[' :: ':' :: name ++ ":]".toList ++ inside, rest)
            | none => none
        | c, rest =>
            (spanSet fuel (isFirst && c == '^') rest).map fun (inside, rest) => (c :: inside, rest)

/-- The text up to a delimiter and what follows it; a backslash before the delimiter is taken away, and
    in an expression the delimiter may stand in a set. -/
def spanDelimited (delimiter : Char) (isPattern : Bool) :
    Nat → List Char → Option (List Char × List Char)
  | 0, _ => none
  | _ + 1, [] => none
  | fuel + 1, c :: rest =>
      if c = delimiter then some ([], rest)
      else
        let goOn := fun (piece rest : List Char) =>
          (spanDelimited delimiter isPattern fuel rest).map fun (text, rest) => (piece ++ text, rest)
        match c, rest with
        | '\n', _ => none
        | '\\', d :: rest =>
            if d = '\n' then goOn (if isPattern then [d] else ['\\', d]) rest
            else if d = delimiter && (isPattern || d != '&') then goOn [d] rest
            else goOn ['\\', d] rest
        | '[', rest =>
            if isPattern then
              match spanSet (rest.length + 1) true rest with
              | some (set, rest) => goOn ('[' :: set) rest
              | none => none
            else goOn [c] rest
        | c, rest => goOn [c] rest

/-- The text up to a delimiter. -/
def readDelimited (cause : Cause) (delimiter : Char) (isPattern : Bool) (s : List Char) :
    Except Stop (List Char × List Char) :=
  match spanDelimited delimiter isPattern (s.length + 1) s with
  | some found => .ok found
  | none => stop cause []

/-- The expression that a text is; nothing for an empty text, which stands for the one used last. -/
def readPattern (manner : Manner) (folded byLine : Bool) (text rest : List Char) :
    Except Stop (Option Regex) :=
  if text.isEmpty then .ok none
  else
    let style := if manner.isExtended then Regex.Style.extended else Regex.Style.basic
    match Regex.ofText { style with folded := folded, byLine := byLine } text with
    | .ok r => .ok (some r)
    | .error why => stop (.badPattern why) rest

/-! ## Addresses -/

/-- Reads the letters behind the expression of an address. -/
def readAddressFlags : List Char → Bool × Bool × List Char
  | 'I' :: rest => let (_, byLine, rest) := readAddressFlags rest; (true, byLine, rest)
  | 'M' :: rest => let (folded, _, rest) := readAddressFlags rest; (folded, true, rest)
  | ' ' :: rest => readAddressFlags rest
  | '\t' :: rest => readAddressFlags rest
  | rest => (false, false, rest)

/-- Reads an address, if there is one. -/
def readAddress (manner : Manner) (s : List Char) : Except Stop (Option RangeEnd × List Char) :=
  let pattern := fun (delimiter : Char) (rest : List Char) => do
    let (text, rest) ← readDelimited .unendingAddress delimiter true rest
    let (folded, byLine, rest) := readAddressFlags rest
    let r ← readPattern manner folded byLine text rest
    .ok (some (.address (.fits r)), rest)
  match s with
  | '/' :: rest => pattern '/' rest
  | '\\' :: delimiter :: rest => pattern delimiter rest
  | ['\\'] => stop .unendingAddress []
  | '$' :: rest => .ok (some (.address .last), rest)
  | '+' :: rest =>
      let (n, rest) := spanNumber (skipSpaces rest)
      .ok (some (.further n), rest)
  | '~' :: rest =>
      let (n, rest) := spanNumber (skipSpaces rest)
      .ok (some (.multiple n), rest)
  | c :: rest =>
      if c.isDigit then
        let (n, rest) := spanNumber (c :: rest)
        match skipSpaces rest with
        | '~' :: rest =>
            let (step, rest) := spanNumber (skipSpaces rest)
            .ok (some (.address (if step = 0 then .line n else .every n step)), rest)
        | rest => .ok (some (.address (.line n)), rest)
      else .ok (none, s)
  | [] => .ok (none, [])

/-- Reads for which lines a command is meant. -/
def readSelection (manner : Manner) (s : List Char) : Except Stop (Selection × List Char) := do
  match ← readAddress manner s with
  | (none, rest) => .ok (.all, rest)
  | (some (.address first), rest) =>
      match skipSpaces rest with
      | ',' :: rest =>
          match ← readAddress manner (skipSpaces rest) with
          | (none, rest) => stop .unexpectedComma (rest.drop 1)
          | (some last, rest) =>
              match first, last with
              | .line 0, .address (.fits r) => .ok (.upTo r, skipSpaces rest)
              | .line 0, _ => stop .zeroLine ((skipSpaces rest).drop 1)
              | first, last => .ok (.range first last, skipSpaces rest)
      | rest =>
          match first with
          | .line 0 => stop .zeroLine (rest.drop 1)
          | first => .ok (.one first, rest)
  | (some _, rest) => stop .countAsFirstAddress rest

/-! ## The parts of commands -/

def readEnd (s : List Char) : Except Stop (List Char) :=
  match skipSpaces s with
  | [] => .ok []
  | ';' :: rest => .ok rest
  | '\n' :: rest => .ok rest
  | '\r' :: rest => .ok rest
  | '\x7d' :: rest => .ok ('\x7d' :: rest)
  | '#' :: rest => .ok ('#' :: rest)
  | _ :: rest => stop .extraCharacters rest

/-- The characters that a text stands for that is put in: a backslash takes the meaning from the
    character behind it, or names a control character. -/
def plainText : Nat → List Char → List Char
  | 0, s => s
  | _ + 1, [] => []
  | fuel + 1, '\\' :: rest =>
      match Regex.controlChar? rest, rest with
      | some (c, rest), _ => c :: plainText fuel rest
      | none, c :: rest => c :: plainText fuel rest
      | none, [] => []
  | fuel + 1, c :: rest => c :: plainText fuel rest

/-- The lines of a text that is put in: one line, and the next one after a backslash at its end. -/
def spanText : List Char → List Char × List Char
  | [] => ([], [])
  | '\\' :: c :: rest =>
      let (text, rest) := spanText rest
      ('\\' :: c :: text, rest)
  | '\n' :: rest => ([], rest)
  | c :: rest =>
      let (text, rest) := spanText rest
      (c :: text, rest)

/-- Whether a text ends in a backslash that takes the meaning from what follows. -/
def endsOpen : List Char → Bool
  | [] => false
  | ['\\'] => true
  | '\\' :: _ :: rest => endsOpen rest
  | _ :: rest => endsOpen rest

/-- Reads a text that is put in, which may go on in the parts that follow; gives the text, what follows
    it, and the parts that are left. -/
def readText (s : List Char) (later : List (List Char)) :
    Except Stop (List Char × List Char × List (List Char)) :=
  let finish := fun (s : List Char) (later : List (List Char)) =>
    let (text, rest) := spanText s
    .ok (plainText (text.length + 1) text ++ ['\n'], rest, later)
  match skipSpaces s with
  | [] => stop .missingText []
  | ['\\'] =>
      match later with
      | [] => .ok ([], [], [])
      | next :: later => finish next later
  | '\\' :: rest =>
      let start := match skipSpaces rest with
        | '\n' :: rest => rest
        | _ => rest
      join finish start later
  | rest => join finish rest later
where
  join (finish : List Char → List (List Char) → Except Stop (List Char × List Char × List (List Char)))
      (s : List Char) (later : List (List Char)) :
      Except Stop (List Char × List Char × List (List Char)) :=
    match later with
    | next :: others =>
        if endsOpen s && (spanText s).2.isEmpty then join finish (s ++ '\n' :: next) others
        else finish s later
    | [] => finish s []

/-- Reads a name that goes to the end of the line. -/
def readName (s : List Char) : Except Stop (List Char × List Char) :=
  let s := skipSpaces s
  let name := s.takeWhile (· != '\n')
  if name.isEmpty then stop .missingFile s else .ok (name, s.drop (name.length + 1))

def spanLabel (s : List Char) : List Char × List Char :=
  (skipSpaces s).span fun c => !isSpace c && c != ';' && c != '\x7d'

/-- The parts of what is put in, and the greatest number of a group among them. -/
def readReplacement : Nat → List Char → List ReplacementPart × Nat
  | 0, _ => ([], 0)
  | _ + 1, [] => ([], 0)
  | fuel + 1, c :: rest =>
      let goOn := fun (part : ReplacementPart) (number : Nat) (rest : List Char) =>
        let (parts, greatest) := readReplacement fuel rest
        (part :: parts, max number greatest)
      match c, rest with
      | '&', rest => goOn (.group 0) 0 rest
      | '\\', d :: rest =>
          if d.isDigit then
            let number := d.toNat - '0'.toNat
            goOn (.group number) number rest
          else
            match d with
            | 'U' => goOn (.change .toUpper) 0 rest
            | 'L' => goOn (.change .toLower) 0 rest
            | 'E' => goOn (.change .stop) 0 rest
            | 'u' => goOn (.change .nextToUpper) 0 rest
            | 'l' => goOn (.change .nextToLower) 0 rest
            | d =>
                match Regex.controlChar? (d :: rest) with
                | some (c, rest) => goOn (.text [c]) 0 rest
                | none => goOn (.text [d]) 0 rest
      | c, rest => goOn (.text [c]) 0 rest

/-- The letters and the number behind a replacement. -/
structure ReplacementFlags where
  folded : Bool
  byLine : Bool
  isPrinted : Bool
  all : Bool
  number : Option Nat
  file : Option (List Char)

/-- Reads the letters and the number behind a replacement. -/
def readFlagsOfReplacement :
    Nat → ReplacementFlags → List Char → Except Stop (ReplacementFlags × List Char)
  | 0, flags, s => .ok (flags, s)
  | _ + 1, flags, [] => .ok (flags, [])
  | fuel + 1, flags, c :: rest =>
      match c with
      | 'i' => readFlagsOfReplacement fuel { flags with folded := true } rest
      | 'I' => readFlagsOfReplacement fuel { flags with folded := true } rest
      | 'm' => readFlagsOfReplacement fuel { flags with byLine := true } rest
      | 'M' => readFlagsOfReplacement fuel { flags with byLine := true } rest
      | 'p' =>
          if flags.isPrinted then stop .severalPrintFlags rest
          else readFlagsOfReplacement fuel { flags with isPrinted := true } rest
      | 'g' =>
          if flags.all then stop .severalGlobalFlags rest
          else readFlagsOfReplacement fuel { flags with all := true } rest
      | 'w' => do
          let (name, rest) ← readName rest
          .ok ({ flags with file := some name }, rest)
      | '\x7d' => .ok (flags, c :: rest)
      | '#' => .ok (flags, c :: rest)
      | '\n' => .ok (flags, rest)
      | ';' => .ok (flags, rest)
      | c =>
          if isSpace c then readFlagsOfReplacement fuel flags rest
          else if c.isDigit then
            if flags.number.isSome then stop .severalNumbers rest
            else
              let (n, rest) := spanNumber (c :: rest)
              if n = 0 then stop .zeroNumber rest
              else readFlagsOfReplacement fuel { flags with number := some n } rest
          else stop .unknownFlag rest

/-- Reads the command that replaces parts. -/
def readSubstitution (manner : Manner) (s : List Char) : Except Stop (Action × List Char) :=
  match s with
  | [] => stop .unendingReplacement []
  | '\n' :: rest => stop .unendingReplacement rest
  | '\\' :: rest => stop .unendingReplacement (rest.drop 1)
  | delimiter :: rest => do
      let (pattern, rest) ← readDelimited .unendingReplacement delimiter true rest
      let (text, rest) ← readDelimited .unendingReplacement delimiter false rest
      let (parts, greatest) := readReplacement (text.length + 1) text
      let (flags, rest) ← readFlagsOfReplacement (rest.length + 1)
        ⟨false, false, false, false, none, none⟩ rest
      let r ← readPattern manner flags.folded flags.byLine pattern rest
      match r.filter fun r => decide (r.groupCount < greatest) with
      | some _ => stop (.unknownReference greatest) rest
      | none =>
          .ok (.replace ⟨r, parts, flags.number.getD 1, flags.all, flags.isPrinted, flags.file⟩, rest)

/-- The characters of one side of an exchange of letters. -/
def lettersOf : Nat → List Char → List Char
  | 0, s => s
  | _ + 1, [] => []
  | fuel + 1, '\\' :: rest =>
      match Regex.controlChar? rest, rest with
      | some (c, rest), _ => c :: lettersOf fuel rest
      | none, c :: rest => c :: lettersOf fuel rest
      | none, [] => ['\\']
  | fuel + 1, c :: rest => c :: lettersOf fuel rest

/-- Reads the command that exchanges letters. -/
def readExchange (s : List Char) : Except Stop (Action × List Char) :=
  match s with
  | [] => stop .unendingExchange []
  | delimiter :: rest => do
      let (source, rest) ← readDelimited .unendingExchange delimiter false rest
      let (target, rest) ← readDelimited .unendingExchange delimiter false rest
      let source := lettersOf (source.length + 1) source
      let target := lettersOf (target.length + 1) target
      if source.length ≠ target.length then stop .differentLengths rest
      else
        let rest ← readEnd rest
        .ok (.exchangeLetters (source.zip target), rest)

/-! ## Commands -/

/-- The commands that are a letter alone. -/
def plainAction? (c : Char) : Option Action :=
  match c with
  | '=' => some .printNumber
  | 'd' => some .delete
  | 'D' => some .deleteFirst
  | 'F' => some .printName
  | 'g' => some .take
  | 'G' => some .takeMore
  | 'h' => some .hold
  | 'H' => some .holdMore
  | 'n' => some .next
  | 'N' => some .nextMore
  | 'p' => some .print
  | 'P' => some .printFirst
  | 'x' => some .exchange
  | 'z' => some .clear
  | _ => none

/-- What has been read of a script. -/
structure Progress where
  /-- The commands, last one first. -/
  done : List Instruction
  /-- The number of blocks that are open. -/
  depth : Nat
  isSilent : Bool

/-- With one more command. -/
def Progress.push (p : Progress) (selection : Selection) (negated : Bool) (action : Action) :
    Progress :=
  { p with done := ⟨p.done.length, selection, negated, action⟩ :: p.done }

/-- Reads the command that a letter stands for, with what follows it and the parts that are left. -/
def readAction (manner : Manner) (p : Progress) (selection : Selection) (c : Char)
    (rest : List Char) (later : List (List Char)) :
    Except Stop (Progress × Action × List Char × List (List Char)) :=
  let isAll := match selection with
    | .all => true
    | _ => false
  let isRange := match selection with
    | .range _ _ => true
    | .upTo _ => true
    | _ => false
  let number := fun (make : Option Nat → Action) => do
    let rest := skipSpaces rest
    let (n, rest) := if rest.head?.any Char.isDigit then
        let (n, rest) := spanNumber rest
        (some n, rest)
      else (none, rest)
    let rest ← readEnd rest
    .ok (p, make n, rest, later)
  let file := fun (make : List Char → Action) => do
    let (name, rest) ← readName rest
    .ok (p, make name, rest, later)
  let text := fun (make : List Char → Action) => do
    let (text, rest, later) ← readText rest later
    .ok (p, make text, rest, later)
  let jump := fun (condition : BranchCondition) =>
    let (label, rest) := spanLabel rest
    do
      let rest ← readEnd rest
      .ok (p, .branch condition label, rest, later)
  match c with
  | '#' =>
      if isAll then .ok (p, .nothing, rest.dropWhile (· != '\n'), later)
      else stop .commentWithAddress rest
  | '\x7b' => .ok ({ p with depth := p.depth + 1 }, .enter, rest, later)
  | '\x7d' =>
      if p.depth = 0 then stop .unopenedBlock rest
      else if !isAll then stop .blockEndWithAddress rest
      else do
        let rest ← readEnd rest
        .ok ({ p with depth := p.depth - 1 }, .leave, rest, later)
  | 'a' => text .append
  | 'i' => text .insert
  | 'c' => text .change
  | ':' =>
      if !isAll then stop .labelWithAddress rest
      else
        let (label, rest) := (skipSpaces rest).span fun c => !isSpace c && c != ';'
        if label.isEmpty then stop .missingLabel rest else .ok (p, .mark label, rest, later)
  | 'b' => jump .always
  | 't' => jump .ifReplaced
  | 'T' => jump .unlessReplaced
  | 'q' =>
      if isRange then stop .severalAddresses rest else number fun n => .quit (n.getD 0)
  | 'Q' =>
      if isRange then stop .severalAddresses rest else number fun n => .quitSilently (n.getD 0)
  | 'l' => number .list
  | 'r' => file .readFile
  | 'R' => file .readLine
  | 'w' => file .writeFile
  | 'W' => file .writeFirst
  | 's' => do
      let (action, rest) ← readSubstitution manner rest
      .ok (p, action, rest, later)
  | 'y' => do
      let (action, rest) ← readExchange rest
      .ok (p, action, rest, later)
  | 'v' => .ok (p, .nothing, (spanLabel rest).2, later)
  | c =>
      match plainAction? c with
      | some action => do
          let rest ← readEnd rest
          .ok (p, action, rest, later)
      | none => stop (.unknownCommand c) rest

/-- Reads one command after another from a part; gives the parts that are left. -/
def readPart (manner : Manner) :
    Nat → Progress → List Char → List (List Char) → Except Stop (Progress × List (List Char))
  | 0, p, _, later => .ok (p, later)
  | fuel + 1, p, s, later =>
      match s.dropWhile fun c => isSpace c || c == ';' with
      | [] => .ok (p, later)
      | s => do
          let (selection, rest) ← readSelection manner s
          let (negated, rest) ← match rest with
            | '!' :: rest =>
                match skipSpaces rest with
                | '!' :: rest => stop .severalNegations rest
                | rest => .ok (true, rest)
            | rest => .ok (false, rest)
          match rest with
          | [] => stop .missingCommand []
          | '\n' :: rest => stop .missingCommand rest
          | ';' :: rest => stop (.unknownCommand ';') rest
          | c :: rest => do
              let (p, action, rest, later) ← readAction manner p selection c rest later
              readPart manner fuel (p.push selection negated action) rest later

/-- What is wrong with a script: the number of the part, the number of characters that were read of it
    before, and the cause. -/
structure Fault where
  part : Nat
  place : Nat
  cause : Cause

/-- Reads all parts. -/
def readParts (manner : Manner) (count : Nat) :
    Nat → Progress → List (List Char) → Except Fault Progress
  | 0, p, _ => .ok p
  | _ + 1, p, [] => .ok p
  | fuel + 1, p, part :: later =>
      let silent := count = later.length + 1 &&
        (part = ['#', 'n'] || ['#', 'n', '\n'].isPrefixOf part)
      match readPart manner (part.length + (later.map List.length).sum + 2)
        { p with isSilent := p.isSilent || silent } part later with
      | .ok (p, later) => readParts manner count fuel p later
      | .error why =>
          .error ⟨count - later.length,
            match why.rest with
            | some rest => part.length - rest.length
            | none => 0, why.cause⟩

def Script.ofParts (isExtended : Bool) (parts : List (List Char)) : Except Fault Script := do
  let p ← readParts ⟨isExtended⟩ parts.length (parts.length + 1) ⟨[], 0, false⟩ parts
  if p.depth = 0 then .ok ⟨p.done.reverse, p.isSilent⟩
  else .error ⟨parts.length, 0, .unclosedBlock⟩

/-- The labels to which a script branches without marking a place with them. -/
def Script.missingLabels (script : Script) : List (List Char) :=
  let marks := script.instructions.filterMap fun i =>
    match i.action with
    | .mark label => some label
    | _ => none
  script.instructions.filterMap fun i =>
    match i.action with
    | .branch _ label => if label.isEmpty || marks.contains label then none else some label
    | _ => none

end CodeBlock.Shell.Editor
