import CodeBlock.Shell.Editor.Script
import CodeBlock.Table

set_option autoImplicit false

/-! # Running scripts of the line editor

The editor holds the line it works on, and another text that commands can store. At the end of the
script the line is printed, then what was put in behind it, and the next line is taken. The last line of a
text may lack its end; then it is printed without one, unless more is printed. -/

namespace CodeBlock.Shell.Editor

/-- A line with what is known about it. -/
structure Line where
  text : List Char
  /-- Whether the line has an end. -/
  isEnded : Bool
  number : Nat
  isLast : Bool
  file : List Char

/-- A text that is worked on, and whether its line has an end. -/
structure Space where
  text : List Char
  isEnded : Bool

/-- What is printed to one place: the pieces, last one first, and whether the last line still lacks an
    end. -/
structure Output where
  pieces : List (List Char)
  owesEnd : Bool

namespace Output

/-- Nothing. -/
def none : Output := ⟨[], false⟩

/-- With a text as it is. -/
def add (o : Output) (s : List Char) (lineEnd : Char) : Output :=
  ⟨s :: if o.owesEnd then [lineEnd] :: o.pieces else o.pieces, false⟩

def addLine (o : Output) (s : Space) (lineEnd : Char) : Output :=
  let o := o.add s.text lineEnd
  if s.isEnded then ⟨[lineEnd] :: o.pieces, false⟩ else ⟨o.pieces, true⟩

/-- The whole text. -/
def text (o : Output) : List Char := o.pieces.reverse.flatten

end Output

/-- What is put in behind a line. -/
inductive Addition where
  | text (s : List Char)
  | file (name : List Char)
  | line (s : Space)

/-- How the editor was called. -/
structure Setting where
  script : List Instruction
  isSilent : Bool
  lineEnd : Char
  /-- Whether each text gets an output of its own. -/
  isSplit : Bool
  /-- The greatest width of lines that are shown in full. -/
  width : Nat
  read : List Char → Option (List Char)

/-- How a run of the script over a line ends. -/
inductive Ending where
  | nextLine
  /-- The script starts again without a new line. -/
  | again
  | quit (status : Nat)
  /-- The steps do not come to an end. -/
  | endless
  deriving DecidableEq, Repr

/-- What the editor has before it. -/
structure State where
  space : Space
  held : Space
  current : Line
  ahead : List Line
  additions : List Addition
  output : Output
  /-- What is written to files. -/
  files : List (String × Output)
  errors : List Char
  /-- The lines that are left of files from which single lines are taken. -/
  readers : List (String × List Space)
  replaced : Bool
  lastPattern : Option Regex
  /-- The ranges that are open, by the commands they belong to; those with a number end at it. -/
  ranges : List (Nat × Option Nat)

/-! ## Lines -/

/-- The lines of a text, each with whether it has an end. -/
def spacesOf (lineEnd : Char) : List Char → List Space
  | [] => []
  | c :: rest =>
      if c = lineEnd then ⟨[], true⟩ :: spacesOf lineEnd rest
      else
        match spacesOf lineEnd rest with
        | [] => [⟨[c], false⟩]
        | s :: others => { s with text := c :: s.text } :: others

def linesOf (lineEnd : Char) (files : List (List Char × List Char)) : List Line :=
  let all := files.flatMap fun (name, text) =>
    (spacesOf lineEnd text).map fun s => (name, s)
  all.zipIdx.map fun ((name, s), i) => ⟨s.text, s.isEnded, i + 1, i + 1 == all.length, name⟩

/-! ## Which commands are run -/

/-- Whether an expression fits the line; it becomes the one that was used last. -/
def fits (pattern : Option Regex) (s : State) : Bool × State :=
  match pattern.or s.lastPattern with
  | some r => (r.occursIn s.space.text, { s with lastPattern := some r })
  | none => (false, s)

/-- Whether an address means the line. -/
def Address.holds (a : Address) (s : State) : Bool × State :=
  match a with
  | line number => (s.current.number == number, s)
  | every first step =>
      (decide (first ≤ s.current.number) && (s.current.number - first) % step == 0, s)
  | last => (s.current.isLast, s)
  | fits pattern => Editor.fits pattern s

/-- With the range of a command open or closed. -/
def State.setRange (s : State) (number : Nat) (range : Option (Option Nat)) : State :=
  let others := s.ranges.filter (·.1 != number)
  { s with ranges := match range with | some last => (number, last) :: others | none => others }

/-- Whether a range means the line, which it may open or close. -/
def rangeHolds (number : Nat) (first : Address) (last : RangeEnd) (s : State) : Bool × State :=
  let here := s.current.number
  match s.ranges.lookup number with
  | none =>
      let (starts, s) := first.holds s
      let upTo := fun (n : Nat) =>
        if here < n then (true, s.setRange number (some (some n))) else (true, s)
      if !starts then (false, s)
      else
        match last with
        | .address (.line n) => upTo n
        | .address _ => (true, s.setRange number (some none))
        | .further lines => upTo (here + lines)
        | .multiple unit => upTo (if unit = 0 then here else here + unit - here % unit)
  | some (some n) =>
      let s := if n ≤ here then s.setRange number none else s
      if here ≤ n then (true, s) else first.holds s
  | some none =>
      match last with
      | .address a =>
          let (ends, s) := a.holds s
          (true, if ends then s.setRange number none else s)
      | _ => (true, s)

/-- Whether the command is meant for the line. -/
def Instruction.holds (i : Instruction) (s : State) : Bool × State :=
  let (holds, s) := match i.selection with
    | .all => (true, s)
    | .one a => a.holds s
    | .range first last => rangeHolds i.number first last s
    | .upTo pattern =>
        -- the range is open until it is closed for good
        match s.ranges.lookup i.number with
        | some _ => (false, s)
        | none =>
            let (ends, s) := fits pattern s
            (true, if ends then s.setRange i.number (some none) else s)
  (holds != i.negated, s)

/-! ## Replacing -/

/-- How letters are changed from here on: the next one, and those that follow. -/
structure LetterState where
  next : LetterChange
  all : LetterChange

def changeLetters (change : LetterChange) (s : List Char) : List Char :=
  match change with
  | .toUpper => s.map Char.toUpper
  | .nextToUpper => s.map Char.toUpper
  | .toLower => s.map Char.toLower
  | .nextToLower => s.map Char.toLower
  | .stop => s

/-- What is put in for a part that fits. -/
def filledIn (whole : List Char) (groups : List (Nat × Nat × List Char)) :
    LetterState → List ReplacementPart → List Char
  | _, [] => []
  | letters, part :: parts =>
      let put := fun (s : List Char) =>
        match s with
        | [] => filledIn whole groups letters parts
        | c :: rest =>
            let first := if letters.next = .stop then letters.all else letters.next
            changeLetters first [c] ++ changeLetters letters.all rest ++
              filledIn whole groups { letters with next := .stop } parts
      match part with
      | .text s => put s
      | .group number =>
          put (if number = 0 then whole else ((groups.lookup number).map (·.2)).getD [])
      | .change letters' =>
          match letters' with
          | .nextToUpper => filledIn whole groups { letters with next := letters' } parts
          | .nextToLower => filledIn whole groups { letters with next := letters' } parts
          | _ => filledIn whole groups ⟨letters.next, letters'⟩ parts

/-- The text from a cursor on with parts replaced, if any is; `count` parts were found before, and the
    last one ended at `lastEnd`. A part without characters does not count where another one ends. -/
def replaceFrom (pattern : Regex) (r : Replacement) :
    Nat → Cursor → Nat → Option Nat → Bool × List (List Char)
  | 0, c, _, _ => (false, [c.rest])
  | fuel + 1, c, count, lastEnd =>
      match pattern.find? c with
      | none => (false, [c.rest])
      | some f =>
          let skipped := c.rest.take (f.start.offset - c.offset)
          let isEmpty := f.start.offset == f.stop.offset
          let after := { f.stop with groups := [] }
          let goOn := fun (piece : List Char) (count : Nat) =>
            if isEmpty then
              match after.rest with
              | [] => (false, [skipped, piece])
              | d :: _ =>
                  let (replaced, pieces) :=
                    replaceFrom pattern r fuel (after.advance 1) count (some after.offset)
                  (replaced, skipped :: piece :: [d] :: pieces)
            else
              let (replaced, pieces) :=
                replaceFrom pattern r fuel after count (some after.offset)
              (replaced, skipped :: piece :: pieces)
          if isEmpty && lastEnd == some f.start.offset then goOn [] count
          else if count + 1 < r.first then goOn f.text (count + 1)
          else
            let new := filledIn f.text f.stop.groups ⟨.stop, .stop⟩ r.parts
            if r.all then
              let (_, pieces) := goOn new (count + 1)
              (true, pieces)
            else (true, [skipped, new, after.rest])

/-- The line with parts replaced as a command says, and whether any is. -/
def replaced (r : Replacement) (pattern : Regex) (s : List Char) : Bool × List Char :=
  let (changed, pieces) := replaceFrom pattern r (2 * s.length + 2) (.atStart s) 0 none
  (changed, pieces.flatten)

/-! ## Showing -/

/-- A character as it is shown in full. -/
def shownChar (c : Char) : List Char :=
  match c with
  | '\\' => ['\\', '\\']
  | '\x07' => ['\\', 'a']
  | '\x08' => ['\\', 'b']
  | '\x0c' => ['\\', 'f']
  | '\n' => ['\\', 'n']
  | '\r' => ['\\', 'r']
  | '\t' => ['\\', 't']
  | '\x0b' => ['\\', 'v']
  | c =>
      if ' ' ≤ c ∧ c ≤ '~' then [c]
      else
        let digits := Nat.toDigits 8 c.toNat
        '\\' :: (List.replicate (3 - digits.length) '0' ++ digits)

/-- A line as it is shown in full, broken where it gets too wide; `used` is the width so far. -/
def shown (width : Nat) : Nat → List Char → List Char
  | _, [] => ['$', '\n']
  | used, c :: rest =>
      let piece := shownChar c
      if 0 < width && width - 1 < used + piece.length then
        ['\\', '\n'] ++ piece ++ shown width piece.length rest
      else piece ++ shown width (used + piece.length) rest

/-! ## Steps -/

namespace State

def print (s : State) (set : Setting) (space : Space) : State :=
  { s with output := s.output.addLine space set.lineEnd }

def printText (s : State) (set : Setting) (text : List Char) : State :=
  { s with output := s.output.add text set.lineEnd }

def printUnlessSilent (s : State) (set : Setting) : State :=
  if set.isSilent then s else s.print set s.space

/-- With everything printed that was put in behind the line. -/
def flush (s : State) (set : Setting) : State :=
  s.additions.foldl (fun s addition =>
    match addition with
    | .text text => s.printText set text
    | .file name =>
        match set.read name with
        | some text => s.printText set text
        | none => s
    | .line space => s.print set space) { s with additions := [] }

/-- With a line written to a file. -/
def write (s : State) (set : Setting) (name : List Char) (space : Space) : State :=
  let name := String.ofList name
  if name = "/dev/stdout" then
    -- the same place, but what is owed there is known apart
    let owed := ((Table.get? name s.files).getD Output.none).owesEnd
    let new := Output.addLine ⟨s.output.pieces, owed⟩ space set.lineEnd
    { s with
      output.pieces := new.pieces, files := Table.put name ⟨[], new.owesEnd⟩ s.files }
  else if name = "/dev/stderr" then { s with errors := s.errors ++ space.text ++ [set.lineEnd] }
  else
    let old := (Table.get? name s.files).getD Output.none
    { s with files := Table.put name (old.addLine space set.lineEnd) s.files }

/-- With a line taken as the one to work on. -/
def takeLine (s : State) (line : Line) (rest : List Line) (text : List Char) : State :=
  { s with
    space := ⟨text, line.isEnded⟩, current := line, ahead := rest, replaced := false }

/-- The first line of the text that is worked on, and the rest if there is one. -/
def split (s : State) (set : Setting) : List Char × Option (List Char) :=
  let first := s.space.text.takeWhile (· != set.lineEnd)
  match s.space.text.drop first.length with
  | [] => (first, none)
  | _ :: rest => (first, some rest)

end State

/-- The commands behind the end of the block that is open. -/
def afterBlock : Nat → List Instruction → List Instruction
  | _, [] => []
  | depth, i :: rest =>
      match i.action with
      | .enter => afterBlock (depth + 1) rest
      | .leave => if depth = 0 then rest else afterBlock (depth - 1) rest
      | _ => afterBlock depth rest

/-- The commands behind a label; without a label, none. -/
def afterLabel (label : List Char) : List Instruction → List Instruction
  | [] => []
  | i :: rest =>
      match i.action with
      | .mark found => if found = label then rest else afterLabel label rest
      | _ => afterLabel label rest

/-- Runs commands over the line until it is done with; `fuel` bounds the number of commands. -/
def runInstructions (set : Setting) : Nat → List Instruction → State → Ending × State
  | 0, _, s => (.endless, s)
  | _ + 1, [], s => (.nextLine, s.printUnlessSilent set)
  | fuel + 1, i :: rest, s =>
      let (holds, s) := i.holds s
      let goOn := runInstructions set fuel rest
      if !holds then
        match i.action with
        | .enter => runInstructions set fuel (afterBlock 0 rest) s
        | _ => goOn s
      else
        match i.action with
        | .enter => goOn s
        | .leave => goOn s
        | .mark _ => goOn s
        | .nothing => goOn s
        | .branch condition label =>
            let taken := match condition with
              | .always => true
              | .ifReplaced => s.replaced
              | .unlessReplaced => !s.replaced
            -- a branch that asks whether anything was replaced starts that over
            let s := if condition = .always then s else { s with replaced := false }
            if taken then
              runInstructions set fuel
                (if label.isEmpty then [] else afterLabel label set.script) s
            else goOn s
        | .append text => goOn { s with additions := s.additions ++ [.text text] }
        | .insert text => goOn (s.printText set text)
        | .change text =>
            -- over a range the text comes once, at the end
            let isOpen := match i.selection with
              | .upTo _ => (s.ranges.lookup i.number).isNone
              | _ => (s.ranges.lookup i.number).isSome
            (.nextLine, if isOpen then s else s.printText set text)
        | .delete => (.nextLine, s)
        | .deleteFirst =>
            match s.split set with
            | (_, none) => (.nextLine, s)
            | (_, some text) => (.again, { s with space.text := text })
        | .printNumber => goOn (s.printText set (Nat.toDigits 10 s.current.number ++ ['\n']))
        | .printName =>
            goOn (s.printText set
              ((if s.current.file.isEmpty then ['-'] else s.current.file) ++ ['\n']))
        | .take => goOn { s with space := s.held }
        | .takeMore =>
            goOn { s with
              space := ⟨s.space.text ++ set.lineEnd :: s.held.text, s.held.isEnded⟩ }
        | .hold => goOn { s with held := s.space }
        | .holdMore =>
            goOn { s with
              held := ⟨s.held.text ++ set.lineEnd :: s.space.text, s.space.isEnded⟩ }
        | .exchange => goOn { s with space := s.held, held := s.space }
        | .list width =>
            goOn (s.printText set (shown (width.getD set.width) 0 s.space.text))
        | .next =>
            let s := s.printUnlessSilent set
            match s.ahead with
            | [] => (.quit 0, s.flush set)
            | line :: ahead => goOn ((s.flush set).takeLine line ahead line.text)
        | .nextMore =>
            match s.ahead with
            | [] => (.quit 0, (s.printUnlessSilent set).flush set)
            | line :: ahead =>
                goOn ((s.flush set).takeLine line ahead
                  (s.space.text ++ set.lineEnd :: line.text))
        | .print => goOn (s.print set s.space)
        | .printFirst => goOn (s.print set ⟨(s.split set).1, true⟩)
        | .quit status => (.quit status, (s.printUnlessSilent set).flush set)
        | .quitSilently status => (.quit status, s)
        | .readFile name => goOn { s with additions := s.additions ++ [.file name] }
        | .readLine name =>
            -- a file is read on from where it was left
            let key := String.ofList name
            let lines := (Table.get? key s.readers).getD
              (((set.read name).map (spacesOf set.lineEnd)).getD [])
            match lines with
            | [] => goOn { s with readers := Table.put key [] s.readers }
            | line :: lines =>
                goOn { s with
                  readers := Table.put key lines s.readers
                  additions := s.additions ++ [.line line] }
        | .writeFile name => goOn (s.write set name s.space)
        | .writeFirst name => goOn (s.write set name ⟨(s.split set).1, true⟩)
        | .replace r =>
            -- an empty pattern is the last one that was used
            match r.pattern.or s.lastPattern with
            | none => goOn s
            | some pattern =>
                let s := { s with lastPattern := some pattern }
                match replaced r pattern s.space.text with
                | (false, _) => goOn s
                | (true, text) =>
                    let s := { s with space.text := text, replaced := true }
                    let s := if r.isPrinted then s.print set s.space else s
                    goOn (match r.file with
                      | some name => s.write set name s.space
                      | none => s)
        | .exchangeLetters pairs =>
            goOn { s with space.text := s.space.text.map fun c => (pairs.lookup c).getD c }
        | .clear => goOn { s with space.text := [] }

/-- How many commands may be run over one line. -/
def stepLimit : Nat := 1000000

/-- Runs the script over the line and over those ahead; gives the status, or nothing if the steps do not
    come to an end. -/
def runLines (set : Setting) : Nat → State → Option Nat × Bool × State
  | 0, s => (none, true, s)
  | fuel + 1, s =>
      match runInstructions set stepLimit set.script s with
      | (.nextLine, s) =>
          let s := s.flush set
          match s.ahead with
          | [] => (some 0, false, s)
          | line :: ahead => runLines set fuel (s.takeLine line ahead line.text)
      | (.again, s) => runLines set fuel (s.flush set)
      | (.quit status, s) => (some status, true, s)
      | (.endless, s) => (none, true, s)

def State.before (s : State) (lines : List Line) : Option State :=
  match lines with
  | [] => none
  | line :: ahead => some ({ s with ranges := [] }.takeLine line ahead line.text)

/-- The state before anything is read; the files that are written are there from the start. -/
def State.start (script : List Instruction) : State :=
  let names := script.filterMap fun i =>
    match i.action with
    | .writeFile name => some name
    | .writeFirst name => some name
    | .replace r => r.file
    | _ => none
  let names := (names.map String.ofList).filter fun name =>
    name != "/dev/stdout" && name != "/dev/stderr"
  { space := ⟨[], true⟩, held := ⟨[], true⟩, current := ⟨[], true, 0, true, []⟩, ahead := []
    additions := [], output := Output.none
    files := Table.ofEntries (names.map fun name => (name, Output.none))
    errors := [], readers := [], replaced := false, lastPattern := none, ranges := [] }

/-- Runs a script over texts one after the other, each on its own: the outputs, whether a command ended
    all, and the status. -/
def runTexts (set : Setting) : List (List Line) → State → List (List Char) × Option Nat × State
  | [], s => ([], some 0, s)
  | lines :: others, s =>
      match s.before lines with
      | none =>
          let (outputs, status, s) := runTexts set others s
          ([] :: outputs, status, s)
      | some s =>
          let (status, ended, s) := runLines set (stepLimit + lines.length) s
          let output := s.output.text
          if ended then ([output], status, s)
          else
            let (outputs, status, s) := runTexts set others
              { s with output := ⟨[], s.output.owesEnd && !set.isSplit⟩ }
            (output :: outputs, status, s)

end CodeBlock.Shell.Editor
