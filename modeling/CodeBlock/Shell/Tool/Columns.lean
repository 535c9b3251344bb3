import CodeBlock.Shell.Tool.Basic
import CodeBlock.Text.Split

set_option autoImplicit false

/-! # Columns of texts

Tools that cut columns out of lines, put columns side by side, break lines, number them, and set what
stands in columns of blanks. -/

namespace CodeBlock.Shell

/-! ## Cutting columns out -/

/-- Columns from one to another; without an end, all others. -/
structure ColumnRange where
  first : Nat
  last : Option Nat

def inColumns (ranges : List ColumnRange) (n : Nat) : Bool :=
  ranges.any fun r => decide (r.first ≤ n) && r.last.all (decide <| n ≤ ·)

/-- What the columns of a tool are, which its complaints name. -/
structure ColumnWording where
  zero : String
  invalid : String
  large : String

/-- Reads a list of columns. -/
def readColumns (wording : ColumnWording) (s : List Char) : Except (List Char) (List ColumnRange) :=
  let words := s.splitOnP (fun c => c == ',' || c == ' ' || c == '\t')
  words.mapM fun word =>
    let wrong := (word.dropWhile fun c => c.isDigit || c == '-')
    let number := fun (digits : List Char) =>
      if 19 < digits.length then
        Except.error (wording.large.toList ++ quoted digits ++ " is too large".toList)
      else .ok (ofDigits 10 digits)
    if !wrong.isEmpty then .error (wording.invalid.toList ++ quoted wrong)
    else
      match Text.splitOnce '-' word with
      | some ([], []) => .error "invalid range with no endpoint: -".toList
      | some (low, high) =>
          if high.contains '-' then .error "invalid byte, character or field list".toList
          else do
            let first ← if low.isEmpty then .ok 1 else number low
            let last ← if high.isEmpty then .ok none else (number high).map some
            if first = 0 then .error wording.zero.toList
            else if last.any (decide <| · < first) then .error "invalid decreasing range".toList
            else .ok ⟨first, last⟩
      | none => do
          let n ← number word
          if n = 0 then .error wording.zero.toList else .ok ⟨n, some n⟩

def startsRange (ranges : List ColumnRange) (n : Nat) : Bool :=
  ranges.any (·.first == n) &&
    !(ranges.any fun r => decide (r.first < n) && r.last.all (decide <| n ≤ ·))

/-- The wanted columns of a line of characters, with a text between ranges. -/
def cutChars (ranges : List ColumnRange) (complemented : Bool) (between : List Char)
    (line : List Char) : List Char :=
  let kept := line.zipIdx.filter fun (_, i) => inColumns ranges (i + 1) != complemented
  let rec put : Option Nat → List (Char × Nat) → List Char
    | _, [] => []
    | before, (c, i) :: rest =>
        let parted := match before with
          | none => false
          | some j => j + 1 != i || (!complemented && startsRange ranges (i + 1))
        (if parted then between else []) ++ c :: put (some i) rest
  put none kept

/-- The tool that cuts columns out of lines. -/
def cutTool (call : ToolCall) : ToolAnswer :=
  let table := SwitchTable.ofText "b:c:f:d:nsz\x01\x02:" [
    ("bytes", 'b'), ("characters", 'c'), ("fields", 'f'), ("delimiter", 'd'),
    ("only-delimited", 's'), ("zero-terminated", 'z'), ("complement", '\x01'),
    ("output-delimiter", '\x02')]
  call.withSwitches "cut" 1 table fun given =>
    let refuse := fun (message : List Char) => ToolAnswer.advising "cut" 1 message
    let lists := given.given.filter fun (c, _) => c == 'b' || c == 'c' || c == 'f'
    match lists with
    | [] => refuse "you must specify a list of bytes, characters, or fields".toList
    | _ :: _ :: _ => refuse "only one list may be specified".toList
    | [(kind, list)] =>
        let inFields := kind == 'f'
        let delimiter := (given.value? 'd').getD ['\t']
        let wording : ColumnWording :=
          if inFields then
            ⟨"fields are numbered from 1", "invalid field value ", "field number "⟩
          else
            ⟨"byte/character positions are numbered from 1", "invalid byte/character position ",
              "byte/character offset "⟩
        if given.has 'd' && delimiter.length > 1 then
          refuse "the delimiter must be a single character".toList
        else if given.has 'd' && !inFields then
          refuse "an input delimiter may be specified only when operating on fields".toList
        else if given.has 's' && !inFields then
          refuse ("suppressing non-delimited lines makes sense\n" ++
            "\tonly when operating on fields").toList
        else
          match readColumns wording list with
          | .error message => refuse message
          | .ok ranges =>
              let mark := delimiter.headD '\x00'
              let complemented := given.has '\x01'
              let lineEnd := if given.has 'z' then '\x00' else '\n'
              let cut := fun (line : List Char) =>
                if inFields then
                  if !line.contains mark then (if given.has 's' then [] else [line])
                  else
                    let fields := (Text.splitAll mark line).zipIdx.filter fun (_, i) =>
                      inColumns ranges (i + 1) != complemented
                    let between := (given.value? '\x02').getD [mark]
                    [((fields.map (·.1)).intersperse between).flatten]
                else [cutChars ranges complemented ((given.value? '\x02').getD []) line]
              call.onTexts (complaintOf "cut") given.operands fun texts =>
                texts.flatMap fun (_, text) =>
                  let lines := Text.splitAll lineEnd text
                  let lines := if lines.getLast? = some [] then lines.dropLast else lines
                  lines.flatMap fun line => (cut line).flatMap (· ++ [lineEnd])

/-! ## Putting columns side by side -/

/-- The texts that are put between columns, in turn. -/
def delimitersOf : List Char → Option (List (List Char))
  | [] => some []
  | ['\\'] => none
  | '\\' :: c :: rest =>
      let d := match c with
        | 'n' => ['\n']
        | 't' => ['\t']
        | '0' => []
        | 'b' => ['\x08']
        | 'f' => ['\x0c']
        | 'r' => ['\r']
        | 'v' => ['\x0b']
        | c => [c]
      (delimitersOf rest).map (d :: ·)
  | c :: rest => (delimitersOf rest).map ([c] :: ·)

/-- Texts with delimiters between them in turn. -/
def joinInTurn (all : List (List Char)) : List (List Char) → List (List Char) → List Char
  | _, [] => []
  | _, [last] => last
  | delimiters, s :: rest =>
      let delimiters := if delimiters.isEmpty then all else delimiters
      s ++ delimiters.headD [] ++ joinInTurn all (delimiters.drop 1) rest

/-- Rows of the lines of sources, which are told apart by numbers; a source may stand in several
    columns. `fuel` bounds the number of rows. -/
def pasteRows : Nat → List Nat → List (Nat × List (List Char)) → List (List (List Char))
  | 0, _, _ => []
  | fuel + 1, columns, sources =>
      let (cells, sources) := columns.foldl (fun (cells, sources) column =>
        match sources.lookup column with
        | some (line :: lines) =>
            (some line :: cells,
              (column, lines) :: sources.filter fun (source : Nat × List (List Char)) =>
                source.1 != column)
        | _ => (none :: cells, sources)) (([] : List (Option (List Char))), sources)
      let cells := cells.reverse
      if cells.all Option.isNone then []
      else cells.map (·.getD []) :: pasteRows fuel columns sources

/-- The tool that puts columns side by side. -/
def pasteTool (call : ToolCall) : ToolAnswer :=
  let table := SwitchTable.ofText "d:sz" [
    ("delimiters", 'd'), ("serial", 's'), ("zero-terminated", 'z')]
  call.withSwitches "paste" 1 table fun given =>
    let written := (given.value? 'd').getD ['\t']
    match delimitersOf written with
    | none =>
        .complaining "paste" 1
          ("delimiter list ends with an unescaped backslash: ".toList ++ written)
    | some delimiters =>
        let delimiters := if delimiters.isEmpty then [[]] else delimiters
        let names := if given.operands.isEmpty then [['-']] else given.operands
        let found : List (List Char × Except FileError (List Char)) :=
          names.eraseDups.map fun name =>
            (name, if name = ['-'] then .ok call.input else call.read name)
        let complaints := found.filterMap fun (name, text) =>
          match text with
          | .ok _ => none
          | .error e => some (complaintOf "paste" name (fileReason e) ++ ['\n'])
        let lines := fun (name : List Char) =>
          (((found.lookup name).bind (·.toOption)).map linesOfText).getD []
        let usedInput := names.contains ['-']
        if given.has 's' then
          let rows := (names.filter fun name => ((found.lookup name).bind (·.toOption)).isSome).map
            fun name => joinInTurn delimiters delimiters (lines name)
          ⟨textOfLines rows, complaints.flatten, if complaints.isEmpty then 0 else 1, usedInput⟩
        else if !complaints.isEmpty then ⟨[], complaints.headD [], 1, usedInput⟩
        else
          let columns := names.zipIdx.map fun (name, i) =>
            if name = ['-'] then (names.idxOf ['-']) else i
          let sources := columns.eraseDups.map fun i => (i, lines (names[i]?.getD []))
          let most := (sources.map (·.2.length)).foldl (· + ·) 0 + 1
          let rows := pasteRows most columns sources
          ⟨textOfLines (rows.map (joinInTurn delimiters delimiters)), [], 0, usedInput⟩

/-! ## Breaking lines -/

/-- The width of a line with one more character. -/
def widthAfter (inBytes : Bool) (width : Nat) (c : Char) : Nat :=
  if inBytes then width + 1
  else
    match c with
    | '\t' => width + 8 - width % 8
    | '\x08' => width - 1
    | '\r' => 0
    | _ => width + 1

def widthOf (inBytes : Bool) (s : List Char) : Nat := s.foldl (widthAfter inBytes) 0

/-- A line broken so that no piece is wider than it may be; `piece` is what was read last, turned
    around. -/
def breakLine (inBytes atBlanks : Bool) (most : Nat) :
    Nat → List Char → List Char → List (List Char)
  | 0, piece, rest => [piece.reverse ++ rest]
  | _ + 1, piece, [] => [piece.reverse]
  | fuel + 1, piece, c :: rest =>
      let width := widthAfter inBytes (widthOf inBytes piece.reverse) c
      if width ≤ most || piece.isEmpty then breakLine inBytes atBlanks most fuel (c :: piece) rest
      else
        let isBlank := fun (c : Char) => c == ' ' || c == '\t'
        let word := piece.takeWhile (!isBlank ·)
        let before := piece.drop word.length
        if atBlanks && !before.isEmpty then
          before.reverse :: breakLine inBytes atBlanks most fuel word (c :: rest)
        else piece.reverse :: breakLine inBytes atBlanks most fuel [] (c :: rest)

/-- The tool that breaks lines. -/
def foldTool (call : ToolCall) : ToolAnswer :=
  let arguments := call.arguments.map fun a =>
    if a.head? = some '-' && (countOf? (a.drop 1)).isSome then "-w".toList ++ a.drop 1 else a
  let table := SwitchTable.ofText "bsw:" [("bytes", 'b'), ("spaces", 's'), ("width", 'w')]
  let call : ToolCall := { call with arguments := arguments }
  call.withSwitches "fold" 1 table fun given =>
    let written := (given.value? 'w').getD ['8', '0']
    match (countOf? written).filter (0 < ·) with
    | none => .complaining "fold" 1 ("invalid number of columns: ".toList ++ quoted written ++
        (if (countOf? written).isSome then ": Numerical result out of range" else "").toList)
    | some width =>
        call.onTexts (complaintOf "fold") given.operands fun texts =>
          texts.flatMap fun (_, text) => (wholeLines text).flatMap fun line =>
            let (line, ending) := splitEnd line
            ((breakLine (given.has 'b') (given.has 's') width (3 * line.length + 1) [] line
              ).intersperse ['\n']).flatten ++ ending

/-! ## Numbering lines -/

/-- The tool that numbers lines. -/
def numberTool (call : ToolCall) : ToolAnswer :=
  let table := SwitchTable.ofText "b:n:w:s:v:i:h:f:d:l:p" [
    ("body-numbering", 'b'), ("number-format", 'n'), ("number-width", 'w'),
    ("number-separator", 's'), ("starting-line-number", 'v'), ("line-increment", 'i')]
  call.withSwitches "nl" 1 table fun given =>
    let number := fun (c : Char) (n : Nat) => ((given.value? c).bind countOf?).getD n
    let width := number 'w' 6
    let step := number 'i' 1
    let separator := (given.value? 's').getD ['\t']
    let set := fun (n : Nat) =>
      let digits := decimal n
      match String.ofList ((given.value? 'n').getD []) with
      | "ln" => padRight width digits
      | "rz" => List.replicate (width - digits.length) '0' ++ digits
      | _ => padLeft width digits
    let counts := fun (line : List Char) =>
      match (given.value? 'b').getD ['t'] with
      | ['a'] => true
      | ['n'] => false
      | _ => line != ['\n']
    call.onTexts (complaintOf "nl") given.operands fun texts =>
      let put := fun (done : Nat × List (List Char)) (line : List Char) =>
        let (n, pieces) := done
        let (text, _) := splitEnd line
        if counts line then (n + step, (set n ++ separator ++ text ++ ['\n']) :: pieces)
        else (n, (List.replicate (width + separator.length) ' ' ++ text ++ ['\n']) :: pieces)
      ((wholeLines (texts.flatMap (·.2))).foldl put (number 'v' 1, [])).2.reverse.flatten

/-! ## Tabulators -/

/-- The column of the next stop after a column. -/
def nextStop (stops : List Nat) (column : Nat) : Nat :=
  match stops with
  | [] => column + 8 - column % 8
  | [n] => if n = 0 then column + 1 else column + n - column % n
  | stops => ((stops.find? (column < ·)).getD (column + 1))

/-- A line with blanks for its tabulators; only at its start under `initial`. -/
def expandLine (stops : List Nat) (initial : Bool) : Nat → Bool → List Char → List Char
  | _, _, [] => []
  | column, atStart, c :: rest =>
      if c = '\t' && (atStart || !initial) then
        let stop := nextStop stops column
        List.replicate (stop - column) ' ' ++ expandLine stops initial stop atStart rest
      else if c = '\n' then c :: expandLine stops initial 0 true rest
      else
        let column := if c = '\x08' then column - 1 else column + 1
        c :: expandLine stops initial column (atStart && c == ' ') rest

/-- The tool that puts blanks for tabulators. -/
def expandTool (call : ToolCall) : ToolAnswer :=
  let arguments := call.arguments.map fun a =>
    if a.head? = some '-' && (a.drop 1).head?.any Char.isDigit then "-t".toList ++ a.drop 1 else a
  let table := SwitchTable.ofText "it:" [("initial", 'i'), ("tabs", 't')]
  let call : ToolCall := { call with arguments := arguments }
  call.withSwitches "expand" 1 table fun given =>
    let stops := ((given.value? 't').map fun value =>
      (value.splitOnP (fun c => c == ',' || c == ' ')).filterMap countOf?).getD []
    call.onTexts (complaintOf "expand") given.operands fun texts =>
      expandLine stops (given.has 'i') 0 true (texts.flatMap (·.2))

/-- A line with tabulators for runs of blanks that reach a stop; only at its start unless `all`. The
    blanks of the run before are counted. -/
def unexpandLine (stops : List Nat) (all : Bool) : Nat → Nat → Bool → List Char → List Char
  | _, blanks, _, [] => List.replicate blanks ' '
  | column, blanks, atStart, c :: rest =>
      if (c = ' ' || c = '\t') && (atStart || all) then
        let stop := nextStop stops column
        if c = '\t' then '\t' :: unexpandLine stops all stop 0 atStart rest
        else if column + 1 = stop then
          -- a single blank before a stop is kept unless more follow
          let isAlone := blanks = 0 && !(rest.head? == some ' ' || rest.head? == some '\t')
          (if isAlone && !atStart then ' ' else '\t') :: unexpandLine stops all stop 0 atStart rest
        else unexpandLine stops all (column + 1) (blanks + 1) atStart rest
      else
        List.replicate blanks ' ' ++ c ::
          (if c = '\n' then unexpandLine stops all 0 0 true rest
          else unexpandLine stops all (column + 1) 0 false rest)

/-- The tool that puts tabulators for blanks. -/
def unexpandTool (call : ToolCall) : ToolAnswer :=
  let table := SwitchTable.ofText "at:\x01" [
    ("all", 'a'), ("tabs", 't'), ("first-only", '\x01')]
  call.withSwitches "unexpand" 1 table fun given =>
    let stops := ((given.value? 't').map fun value =>
      (value.splitOnP (fun c => c == ',' || c == ' ')).filterMap countOf?).getD []
    call.onTexts (complaintOf "unexpand") given.operands fun texts =>
      unexpandLine stops ((given.has 'a' || given.has 't') && !given.has '\x01') 0 0 true
        (texts.flatMap (·.2))

end CodeBlock.Shell
