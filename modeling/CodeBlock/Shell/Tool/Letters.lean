import CodeBlock.Regex.Reader
import CodeBlock.Shell.Tool.Basic

set_option autoImplicit false

/-! # Replacing characters

A tool that replaces characters, leaves them away, or shortens runs of one character. The characters are
given as sets: with ranges, classes and escapes, and the set of the new ones with repetitions. -/

namespace CodeBlock.Shell.Letters

/-- A part of a set of characters. -/
inductive Part where
  | chars (cs : List Char)
  /-- The small letters. -/
  | lower
  /-- The capital letters. -/
  | upper
  /-- A character as often as it takes, or as a count says. -/
  | again (c : Char) (count : Option Nat)

/-- Why a text is no set. -/
inductive Failure where
  | disorderedRange (low high : Char)
  | unknownClass (name : List Char)

/-- The wording of a failure. -/
def Failure.message : Failure → List Char
  | disorderedRange low high =>
      "range-endpoints of '".toList ++ [low, '-', high] ++
        "' are in reverse collating sequence order".toList
  | unknownClass name => "invalid character class '".toList ++ name ++ ['\'']

/-- All characters, in order. -/
def allChars : List Char := (List.range 256).map Char.ofNat

/-- The characters from one to another. -/
def span (low high : Char) : List Char :=
  (List.range (high.toNat + 1 - low.toNat)).map fun i => Char.ofNat (low.toNat + i)

/-- The character that a text starts with, and what follows it. -/
def readChar : List Char → Option (Char × List Char)
  | [] => none
  | '\\' :: rest =>
      match rest with
      | [] => some ('\\', [])
      | c :: more =>
          match Regex.codedChar? 8 3 rest with
          | some found => some found
          | none =>
              match c with
              | 'a' => some ('\x07', more)
              | 'b' => some ('\x08', more)
              | 'f' => some ('\x0c', more)
              | 'n' => some ('\n', more)
              | 'r' => some ('\r', more)
              | 't' => some ('\t', more)
              | 'v' => some ('\x0b', more)
              | c => some (c, more)
  | c :: rest => some (c, rest)

/-- The part that a text in brackets stands for, and what follows it. -/
def readBracket? (s : List Char) : Option (Except Failure (Part × List Char)) :=
  match s with
  | ':' :: rest =>
      (Regex.untilMark ':' rest).map fun (name, rest) =>
        match String.ofList name with
        | "lower" => .ok (.lower, rest)
        | "upper" => .ok (.upper, rest)
        | _ =>
            match Regex.classRanges? name with
            | some ranges =>
                .ok (.chars (ranges.flatMap fun (low, high) => span low high), rest)
            | none => .error (.unknownClass name)
  | '=' :: rest =>
      match Regex.untilMark '=' rest with
      | some ([c], rest) => some (.ok (.chars [c], rest))
      | _ => none
  | s =>
      match readChar s with
      | some (c, '*' :: rest) =>
          let digits := rest.takeWhile Char.isDigit
          match rest.drop digits.length with
          | ']' :: rest =>
              let base := if digits.head? = some '0' then 8 else 10
              let count := ofDigits base digits
              some (.ok (.again c (if count = 0 then none else some count), rest))
          | _ => none
      | _ => none

/-- The parts of a set; `fuel` bounds the text. -/
def readParts : Nat → List Char → Except Failure (List Part)
  | 0, _ => .ok []
  | _ + 1, [] => .ok []
  | fuel + 1, s =>
      match if s.head? = some '[' then readBracket? (s.drop 1) else none with
      | some (.ok (part, rest)) => (readParts fuel rest).map (part :: ·)
      | some (.error why) => .error why
      | none =>
          match readChar s with
          | none => .ok []
          | some (low, '-' :: rest) =>
              match readChar rest with
              | none => .ok [.chars [low, '-']]
              | some (high, rest) =>
                  if high < low then .error (.disorderedRange low high)
                  else (readParts fuel rest).map (.chars (span low high) :: ·)
          | some (c, rest) => (readParts fuel rest).map (.chars [c] :: ·)

/-- The characters of some parts, of which a repetition without a count fills up to a length. -/
def charsOf (length : Nat) (parts : List Part) : List Char :=
  let plain := fun (part : Part) => match part with
    | .chars cs => cs
    | .lower => span 'a' 'z'
    | .upper => span 'A' 'Z'
    | .again c (some n) => List.replicate n c
    | .again _ none => []
  let known := (parts.map fun part => (plain part).length).foldl (· + ·) 0
  parts.flatMap fun part => match part with
    | .again c none => List.replicate (length - known) c
    | part => plain part

/-- What each character becomes: the one at the same place of the other set, of which the last one goes
    on. -/
def table (source target : List Char) : List (Char × Char) :=
  let last := target.getLast?
  (source.zipIdx.filterMap fun (c, i) => (target[i]?.or last).map fun d => (c, d)).reverse

/-- The text with runs of one character of a set shortened to one. -/
def squeezed (set : List Char) : Option Char → List Char → List Char
  | _, [] => []
  | before, c :: rest =>
      if before = some c ∧ set.contains c then squeezed set before rest
      else c :: squeezed set (some c) rest

/-- The tool. -/
def tool (call : ToolCall) : ToolAnswer :=
  let names := SwitchTable.ofText "dscCt" [
    ("delete", 'd'), ("squeeze-repeats", 's'), ("complement", 'c'), ("truncate-set1", 't')]
  match names.read true call.arguments with
  | .error fault => .advising "tr" 1 fault.message
  | .ok given =>
      let deletes := given.has 'd'
      let squeezes := given.has 's'
      let complements := given.has 'c' || given.has 'C'
      let most := if deletes && !squeezes then 1 else 2
      let least := if deletes = squeezes then 2 else 1
      match given.operands with
      | [] => .advising "tr" 1 "missing operand".toList
      | first :: others =>
          if others.length + 1 < least then
            .advising "tr" 1 ("missing operand after ".toList ++ quoted first ++
              (if squeezes then
                "\nTwo strings must be given when both deleting and squeezing repeats."
              else "\nTwo strings must be given when translating.").toList)
          else if most < others.length + 1 then
            let extra := (given.operands[most]?).getD []
            .advising "tr" 1 ("extra operand ".toList ++ quoted extra ++
              (if most = 1 && others.length = 1 then
                "\nOnly one string may be given when deleting without squeezing repeats."
              else "").toList)
          else
            match readParts (first.length + 1) first,
                readParts ((others.headD []).length + 1) (others.headD []) with
            | .error why, _ => .complaining "tr" 1 why.message
            | _, .error why => .complaining "tr" 1 why.message
            | .ok source, .ok target =>
                let named := charsOf 0 source
                let chars := if complements then allChars.filter (!named.contains ·) else named
                let new := charsOf chars.length target
                let translates := !deletes && !others.isEmpty
                let otherClass := target.any fun part => match part with
                  | .chars cs => cs.length > 1 && ((others.headD []).head? == some '[') &&
                      ((others.headD []).take 2 == ['[', ':'])
                  | _ => false
                if translates && otherClass then
                  .complaining "tr" 1 ("when translating, the only character classes that may " ++
                    "appear in\nstring2 are 'upper' and 'lower'").toList
                else if translates && new.isEmpty && !given.has 't' then
                  .complaining "tr" 1
                    "when not truncating set1, string2 must be non-empty".toList
                else
                  let chars := if given.has 't' && translates then chars.take new.length else chars
                  let text := call.input
                  let text :=
                    if deletes then text.filter (!chars.contains ·)
                    else if translates then
                      let table := table chars new
                      text.map fun c => (table.lookup c).getD c
                    else text
                  let text :=
                    if squeezes then squeezed (if others.isEmpty then chars else new) none text
                    else text
                  ⟨text, [], 0, true⟩

end CodeBlock.Shell.Letters
