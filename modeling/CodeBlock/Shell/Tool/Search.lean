import CodeBlock.Regex.Reader
import CodeBlock.Shell.Tool.Basic
import CodeBlock.Text.Split

set_option autoImplicit false

/-! # Picking lines

A tool that picks the lines in which a part fits one of some expressions, and shows them, their parts
that fit, their number or the names of their files. -/

namespace CodeBlock.Shell.Search

/-- What a part has to be besides fitting an expression. -/
inductive Extent where
  | part
  /-- No part of a longer word. -/
  | word
  /-- The whole line. -/
  | line
  deriving DecidableEq

/-- The end of the longest part from a cursor on that fits one of the expressions. -/
def fitAt (patterns : List Regex) (extent : Extent) (c : Cursor) : Option Cursor :=
  let isWord := fun (c : Option Char) => c.any Regex.isWordChar
  let allowed := fun (d : Cursor) =>
    match extent with
    | .part => true
    | .word => !isWord c.before && !isWord d.rest.head?
    | .line => c.before.isNone && d.rest.isEmpty
  let ends := patterns.flatMap fun r => (r.ends r.looksBack c).filter allowed
  ends.foldl (fun best d =>
    match best with
    | some b => if b.offset < d.offset then some d else best
    | none => some d) none

/-- The first part from a cursor on that fits, as the places where it starts and ends. -/
def find? (patterns : List Regex) (extent : Extent) : Nat → Cursor → Option (Cursor × Cursor)
  | fuel, c =>
      match fitAt patterns extent c, fuel with
      | some d, _ => some (c, d)
      | none, 0 => none
      | none, fuel + 1 => find? patterns extent fuel (c.advance 1)

/-- The parts of a line that fit, each with its place; parts without characters are not among them. -/
def partsOf (patterns : List Regex) (extent : Extent) : Nat → Cursor → List (Nat × List Char)
  | 0, _ => []
  | fuel + 1, c =>
      match find? patterns extent c.rest.length c with
      | none => []
      | some (start, stop) =>
          if start.offset = stop.offset then
            if start.rest.isEmpty then [] else partsOf patterns extent fuel (start.advance 1)
          else
            (start.offset, start.rest.take (stop.offset - start.offset)) ::
              partsOf patterns extent fuel { stop with groups := [] }

/-- An expression for a text that stands for itself. -/
def literal (folded : Bool) (s : List Char) : Regex :=
  s.foldr (fun c r => .both (.among false folded [(c, c)]) r) .empty

/-- The switches of the tool. -/
def switches : SwitchTable :=
  .ofText "EFGPivwxcLlm:oqsbHhnTZA:B:C:arRze:f:yIUu\x01::" [
    ("extended-regexp", 'E'), ("fixed-strings", 'F'), ("basic-regexp", 'G'), ("perl-regexp", 'P'),
    ("ignore-case", 'i'), ("invert-match", 'v'), ("word-regexp", 'w'), ("line-regexp", 'x'),
    ("count", 'c'), ("files-without-match", 'L'), ("files-with-matches", 'l'), ("max-count", 'm'),
    ("only-matching", 'o'), ("quiet", 'q'), ("silent", 'q'), ("no-messages", 's'),
    ("byte-offset", 'b'), ("with-filename", 'H'), ("no-filename", 'h'), ("line-number", 'n'),
    ("null", 'Z'), ("after-context", 'A'), ("before-context", 'B'), ("context", 'C'), ("text", 'a'),
    ("recursive", 'r'), ("null-data", 'z'), ("regexp", 'e'), ("file", 'f'), ("color", '\x01'),
    ("colour", '\x01')]

/-- How the tool is used. -/
def usage : String :=
  "Usage: grep [OPTION]... PATTERNS [FILE]...\nTry 'grep --help' for more information."

/-- Reads the expressions. -/
def readPatterns (given : Switches) (extended : Bool) (texts : List (List Char)) :
    Except (List Char) (List Regex) :=
  let folded := given.has 'i' || given.has 'y'
  texts.mapM fun s =>
    if given.has 'F' then .ok (literal folded s)
    else
      let style :=
        if extended then Regex.Style.extendedPicking else Regex.Style.basicPicking
      match Regex.ofText { style with folded := folded } s with
      | .ok r => .ok r
      | .error .unclosedSet => .error "Unmatched [, [^, [:, [., or [=".toList
      | .error why => .error why.message.toList

/-- What is shown before a line: the name of its file, its number and the place of its first byte, each
    with a mark behind it. -/
structure Heading where
  name : Option (List Char)
  numbered : Bool
  placed : Bool

def Heading.text (h : Heading) (mark : Char) (number place : Nat) : List Char :=
  (match h.name with | some name => name ++ [mark] | none => []) ++
    (if h.numbered then decimal number ++ [mark] else []) ++
    (if h.placed then decimal place ++ [mark] else [])

/-- A line with its number, the place of its first byte, and whether it is picked. -/
structure Candidate where
  text : List Char
  number : Nat
  place : Nat
  isPicked : Bool

/-- The lines with whether they are picked, up to so many that are. -/
def candidates (picks : List Char → Bool) (most : Option Nat) :
    Nat → Nat → Nat → List (List Char) → List Candidate
  | _, _, _, [] => []
  | number, place, found, line :: lines =>
      let isPicked := !(most.any (decide <| · ≤ found)) && picks line
      ⟨line, number, place, isPicked⟩ ::
        candidates picks most (number + 1) (place + line.length + 1)
          (if isPicked then found + 1 else found) lines

/-- The lines that are shown: those that are picked, and some before and after them. -/
def shownWith (before after : Nat) (all : List Candidate) : List Candidate :=
  let picked := (all.filter (·.isPicked)).map (·.number)
  all.filter fun c => picked.any fun n =>
    decide (n ≤ c.number + before) && decide (c.number ≤ n + after)

/-- The text of shown lines; between those that do not follow each other stands a mark. -/
def showLines (h : Heading) (context : Bool) (lineEnd : Char) : Option Nat → List Candidate → List Char
  | _, [] => []
  | before, c :: rest =>
      let gap := context && before.any fun n => n + 1 != c.number
      (if gap then "--\n".toList else []) ++
        h.text (if c.isPicked then ':' else '-') c.number c.place ++ c.text ++ lineEnd ::
        showLines h context lineEnd (some c.number) rest

/-- The tool; `extended` says that operators need no backslash. -/
def tool (name : String) (extended fixed : Bool) (call : ToolCall) : ToolAnswer :=
  let refuse := fun (message : List Char) => ToolAnswer.complaining "grep" 2 message
  let arguments := call.arguments.map fun a =>
    if a.head? = some '-' && (countOf? (a.drop 1)).isSome then "-C".toList ++ a.drop 1 else a
  match switches.read false arguments with
  | .error fault => refuse (fault.message ++ '\n' :: usage.toList)
  | .ok given =>
      let given := if fixed then given.push 'F' [] else given
      let files := (given.values 'f').map fun file => (file, call.read file)
      let unreadable := files.findSome? fun (file, text) =>
        match text with
        | .ok _ => none
        | .error e => some (file ++ (": " ++ fileReason e).toList)
      let fromFiles := files.flatMap fun (_, text) => (text.toOption.map linesOfText).getD []
      let fromSwitches := (given.values 'e').flatMap (Text.splitAll '\n')
      let given? := if given.has 'e' || given.has 'f' then some (fromSwitches ++ fromFiles, given.operands)
        else
          match given.operands with
          | [] => none
          | first :: names => some (Text.splitAll '\n' first, names)
      let count := fun (letter : Char) =>
        ((given.value? letter).or (if letter = 'm' then none else given.value? 'C'))
      let wrongContext := ['A', 'B', 'C'].findSome? fun letter =>
        (given.value? letter).filter fun v => (countOf? v).isNone
      match unreadable, given? with
      | some message, _ => refuse message
      | none, none => .refusing 2 usage
      | none, some (texts, names) =>
          match wrongContext, (given.value? 'm').filter fun v => (countOf? v).isNone with
          | some value, _ => refuse (value ++ ": invalid context length argument".toList)
          | none, some _ => refuse "invalid max count".toList
          | none, none =>
              match readPatterns given (extended || given.has 'E' || given.has 'P') texts with
              | .error message => refuse message
              | .ok patterns =>
                  answer given patterns names
                    ((count 'B').bind countOf? |>.getD 0) ((count 'A').bind countOf? |>.getD 0)
                    ((count 'm').bind countOf?)
where
  answer (given : Switches) (patterns : List Regex) (names : List (List Char)) (before after : Nat)
      (most : Option Nat) : ToolAnswer :=
    let extent : Extent := if given.has 'x' then .line else if given.has 'w' then .word else .part
    let lineEnd := if given.has 'z' then '\x00' else '\n'
    let fits := fun (line : List Char) =>
      (find? patterns extent line.length (.atStart line)).isSome
    let picks := fun (line : List Char) => fits line != given.has 'v'
    let m := call.material (complaintOf name) names
    let context := given.has 'A' || given.has 'B' || given.has 'C'
    let rows := m.texts.map fun (file, text) =>
      let file := if file.isEmpty || file = ['-'] then "(standard input)".toList else file
      let lines : List (List Char) := Text.splitAll lineEnd text
      let lines := if lines.getLast? = some [] then lines.dropLast else lines
      let all : List Candidate := candidates picks most 1 0 0 lines
      let picked : List Candidate := all.filter Candidate.isPicked
      let heading : Heading := {
        name := if (names.length > 1 && !given.has 'h') || given.has 'H' then some file else none
        numbered := given.has 'n'
        placed := given.has 'b' }
      let isBinary := !given.has 'a' && !given.has 'z' && text.contains '\x00'
      let output :=
        if given.has 'q' then []
        else if given.has 'l' || given.has 'L' then
          if picked.isEmpty = given.has 'L' then
            file ++ [if given.has 'Z' then '\x00' else '\n']
          else []
        else if given.has 'c' then
          (match heading.name with | some name => name ++ [':'] | none => []) ++
            decimal picked.length ++ ['\n']
        else if isBinary then
          if picked.isEmpty then []
          else (name ++ ": ").toList ++ file ++ ": binary file matches\n".toList
        else if given.has 'o' then
          if given.has 'v' then []
          else
            picked.flatMap fun (c : Candidate) =>
              (partsOf patterns extent (c.text.length + 1) (.atStart c.text)).flatMap
                fun (offset, part) =>
                  heading.text ':' c.number (c.place + offset) ++ part ++ [lineEnd]
        else
          showLines heading context lineEnd none
            (if context then shownWith before after all else picked)
      (output, !picked.isEmpty)
    let found := rows.any (·.2)
    let silenced := given.has 's' || given.has 'q'
    let blocks := (rows.map (·.1)).filter (!·.isEmpty)
    let between := if context && !given.has 'c' && !given.has 'l' && !given.has 'L' && !given.has 'o'
      then "--\n".toList else []
    ⟨(blocks.intersperse between).flatten, if given.has 's' then [] else m.complaints.flatten,
      if !m.complaints.isEmpty && !(found && silenced && given.has 'q') then 2
      else if found then 0 else 1, m.usedInput⟩

end CodeBlock.Shell.Search
