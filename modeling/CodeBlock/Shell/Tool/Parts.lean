import CodeBlock.Shell.Tool.Basic

set_option autoImplicit false

/-! # Parts of texts

Tools that show texts, or a part at their start or end, or their lines in the other order. -/

namespace CodeBlock.Shell

/-! ## Whole texts -/

/-- A character as it is shown where nothing may stay hidden. -/
def visible (c : Char) : List Char :=
  let plain := fun (n : Nat) =>
    if n < 32 then ['^', Char.ofNat (n + 64)] else if n = 127 then ['^', '?'] else [Char.ofNat n]
  if 128 ≤ c.toNat then 'M' :: '-' :: plain (c.toNat - 128) else plain c.toNat

/-- The lines of which the empty ones after an empty one are left out. -/
def squeezeEmpty : Bool → List (List Char) → List (List Char)
  | _, [] => []
  | afterEmpty, line :: lines =>
      let isEmpty := line == ['\n']
      if afterEmpty && isEmpty then squeezeEmpty true lines
      else line :: squeezeEmpty isEmpty lines

/-- The lines with their numbers from one on; the empty ones get none under `skipsEmpty`. -/
def numberLines (skipsEmpty : Bool) : Nat → List (List Char) → List (List Char)
  | _, [] => []
  | n, line :: lines =>
      if skipsEmpty && line == ['\n'] then line :: numberLines skipsEmpty n lines
      else (padLeft 6 (decimal n) ++ '\t' :: line) :: numberLines skipsEmpty (n + 1) lines

/-- The tool that shows texts. -/
def showTool (call : ToolCall) : ToolAnswer :=
  let table := SwitchTable.ofText "AbeEnstTuv" [
    ("show-all", 'A'), ("number-nonblank", 'b'), ("show-ends", 'E'), ("number", 'n'),
    ("squeeze-blank", 's'), ("show-tabs", 'T'), ("show-nonprinting", 'v')]
  call.withSwitches "cat" 1 table fun given =>
    let hidden := given.has 'v' || given.has 'A' || given.has 'e' || given.has 't'
    let tabs := given.has 'T' || given.has 'A' || given.has 't'
    let ends := given.has 'E' || given.has 'A' || given.has 'e'
    call.onTexts (complaintOf "cat") given.operands fun texts =>
      let text := texts.flatMap (·.2)
      if given.given.isEmpty then text
      else
        let lines := wholeLines text
        let lines := if given.has 's' then squeezeEmpty false lines else lines
        let lines :=
          if tabs || ends || hidden then
            lines.map fun line => line.flatMap fun c =>
              if c = '\n' then (if ends then ['$', '\n'] else ['\n'])
              else if c = '\t' then (if tabs then ['^', 'I'] else ['\t'])
              else if hidden then visible c
              else [c]
          else lines
        -- a line is empty whatever marks its end
        let lines :=
          if given.has 'b' then
            let ended := fun line => if line == ['$', '\n'] then ['\n'] else line
            ((numberLines true 1 (lines.map ended)).zip lines).map fun (numbered, line) =>
              if line == ['$', '\n'] then line else numbered
          else if given.has 'n' then numberLines false 1 lines
          else lines
        lines.flatten

/-! ## Starts and ends -/

/-- Which part of a text is wanted. -/
structure Extent where
  count : Nat
  /-- Whether lines are counted, and not bytes. -/
  inLines : Bool
  /-- Whether the count says what is left away. -/
  others : Bool

/-- The part at the start of a text. -/
def Extent.atStart (e : Extent) (s : List Char) : List Char :=
  let some' := fun (n : Nat) => if e.others then n - e.count else e.count
  if e.inLines then
    let lines := wholeLines s
    (lines.take (some' lines.length)).flatten
  else s.take (some' s.length)

/-- The part at the end of a text; the other ones are all from a place on. -/
def Extent.atEnd (e : Extent) (s : List Char) : List Char :=
  let skipped := fun (n : Nat) => if e.others then e.count - 1 else n - e.count
  if e.inLines then
    let lines := wholeLines s
    (lines.drop (skipped lines.length)).flatten
  else s.drop (skipped s.length)

/-- Several texts under headings, or one without. -/
def underHeadings (headed : Bool) (f : List Char → List Char)
    (texts : List (List Char × List Char)) : List Char :=
  if headed then
    ((texts.map fun (name, text) =>
      "==> ".toList ++ (if name.isEmpty || name = ['-'] then "standard input".toList else name) ++
        " <==\n".toList ++ f text).intersperse ['\n']).flatten
  else texts.flatMap fun (_, text) => f text

/-- The arguments with a count that stands alone behind a dash or a plus written as a switch. -/
def spelledOut (plus : Bool) : List (List Char) → List (List Char)
  | (sign :: c :: rest) :: others =>
      if c.isDigit && (sign == '-' || (plus && sign == '+')) then
        let digits := (c :: rest).takeWhile Char.isDigit
        let letters := (c :: rest).drop digits.length
        let count := (if sign = '+' then ['+'] else []) ++ digits
        if letters.isEmpty then "-n".toList :: count :: others
        else if letters = ['c'] then "-c".toList :: count :: others
        else if letters.all fun d => d == 'q' || d == 'v' || d == 'l' then
          "-n".toList :: count :: (letters.filter (· != 'l')).map (fun d => ['-', d]) ++ others
        else (sign :: c :: rest) :: others
      else (sign :: c :: rest) :: others
  | arguments => arguments

/-- A tool that gives a part of its texts; `mark` is the sign of the other part. -/
def extentTool (tool : String) (mark : Char) (part : Extent → List Char → List Char)
    (call : ToolCall) : ToolAnswer :=
  let table := SwitchTable.ofText "n:c:qvfFs:" [
    ("lines", 'n'), ("bytes", 'c'), ("quiet", 'q'), ("silent", 'q'), ("verbose", 'v'),
    ("follow", 'f')]
  let call := { call with arguments := spelledOut (mark == '+') call.arguments }
  call.withSwitches tool 1 table fun given =>
    let counts := given.given.filter fun (c, _) => c == 'n' || c == 'c'
    let extent? := match counts.getLast? with
      | none => Except.ok (⟨10, true, false⟩ : Extent)
      | some (letter, value) =>
          let (others, digits) := match value with
            | c :: digits =>
                if c = mark then (true, digits)
                else if c = '-' || c = '+' then (false, digits) else (false, value)
            | [] => (false, [])
          match amountOf? digits with
          | some n => .ok ⟨n, letter == 'n', others⟩
          | none => .error ("invalid number of ".toList ++
              (if letter = 'n' then "lines: " else "bytes: ").toList ++ quoted value)
    match extent? with
    | .error message => .complaining tool 1 message
    | .ok extent =>
        let headed := !given.has 'q' && (given.has 'v' || given.operands.length > 1)
        call.onTexts (openingComplaint tool) given.operands (underHeadings headed (part extent))

/-! ## The other order -/

/-- The tool that gives lines from the last one to the first one. -/
def reverseLines (call : ToolCall) : ToolAnswer :=
  let complaint := fun (file : List Char) (reason : String) =>
    if reason = "Is a directory" then "tac: ".toList ++ file ++ ": read error: ".toList ++ reason.toList
    else "tac: failed to open ".toList ++ quoted file ++ (" for reading: " ++ reason).toList
  call.withSwitches "tac" 1 (.ofText "bs:r" [("separator", 's'), ("before", 'b')]) fun given =>
    call.onTexts complaint given.operands fun texts =>
      texts.flatMap fun (_, text) =>
        match given.value? 's' with
        | some (mark :: _) =>
            ((wholeLines (text.map fun c => if c = mark then '\n' else if c = '\n' then mark else c)
              ).reverse.flatten).map fun c => if c = mark then '\n' else if c = '\n' then mark else c
        | _ => (wholeLines text).reverse.flatten

/-- The tool that turns each line around. -/
def reverseLetters (call : ToolCall) : ToolAnswer :=
  call.onTexts
    (fun file reason => "rev: cannot open ".toList ++ file ++ (": " ++ reason).toList)
    (call.arguments.filter (· != "--".toList)) fun texts =>
      texts.flatMap fun (_, text) => (wholeLines text).flatMap fun line =>
        let (line, ending) := splitEnd line
        line.reverse ++ ending

/-! ## Counts -/

/-- Whether a character stands between words. -/
def isBlankInText (c : Char) : Bool := c == ' ' || ('\t' ≤ c && c ≤ '\r')

/-- The number of words up to a character and whether it is in one, by what these are before it. -/
def countWord (counted : Nat × Bool) (c : Char) : Nat × Bool :=
  (if !isBlankInText c && !counted.2 then counted.1 + 1 else counted.1, !isBlankInText c)

def wordCount (s : List Char) : Nat := (s.foldl countWord (0, false)).1

def widestLine (s : List Char) : Nat :=
  ((linesOfText s).map fun line =>
    line.foldl (fun width c =>
      if c = '\t' then width + 8 - width % 8
      else if ' ' ≤ c ∧ c ≤ '~' then width + 1
      else width) 0).foldl max 0

/-- The tool that counts lines, words and bytes. -/
def countTool (call : ToolCall) : ToolAnswer :=
  let table := SwitchTable.ofText "lwcmL" [
    ("lines", 'l'), ("words", 'w'), ("bytes", 'c'), ("chars", 'm'), ("max-line-length", 'L')]
  call.withSwitches "wc" 1 table fun given =>
    let has := fun c => given.given.isEmpty || given.has c
    let counts := fun (text : List Char) =>
      (if has 'l' then [text.count '\n'] else []) ++ (if has 'w' then [wordCount text] else []) ++
        (if given.has 'm' then [text.length] else []) ++
        (if has 'c' then [text.length] else []) ++ (if given.has 'L' then [widestLine text] else [])
    let names := given.operands
    call.onTexts (complaintOf "wc") names fun texts =>
      let rows := texts.map fun (name, text) => (counts text, name)
      let greatest := fun (row : List Nat) => if given.has 'L' then row.getLastD 0 else 0
      let rows :=
        if names.length > 1 then
          let total := ((rows.map (·.1)).foldl (fun sums row =>
            if sums.isEmpty then row else List.zipWith (· + ·) sums row) [])
          let widest := ((rows.map (·.1)).map greatest).foldl max 0
          let total := if total.isEmpty then List.replicate (counts []).length 0 else total
          rows ++ [(if given.has 'L' then total.dropLast ++ [widest] else total, "total".toList)]
        else rows
      let columns := (counts []).length
      let width :=
        if columns ≤ 1 && names.length ≤ 1 then 1
        else
          let isInput := fun (name : List Char) => name.isEmpty || name == ['-']
          let bytes := (texts.map fun (name, text) =>
            if isInput name && !call.inputIsFile then 0 else text.length).foldl (· + ·) 0
          let digits := (decimal bytes).length
          if (texts.any fun (name, _) => isInput name) && !call.inputIsFile then max 7 digits
          else digits
      rows.flatMap fun (row, name) =>
        ((row.map fun n => padLeft width (decimal n)).intersperse [' ']).flatten ++
          (if name.isEmpty then [] else ' ' :: name) ++ ['\n']

end CodeBlock.Shell
