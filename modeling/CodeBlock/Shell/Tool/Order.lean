import CodeBlock.Number.Power
import CodeBlock.Shell.Tool.Basic
import CodeBlock.Text.Split

set_option autoImplicit false

/-! # Lines in order

Tools that put lines in order, by all of a line or by keys in it, that leave out repeated lines, and that
compare or join files whose lines are in order. -/

namespace CodeBlock.Shell

/-! ## Ways of comparing -/

/-- How keys are compared, and what of them counts. -/
structure KeyOrder where
  skipsBlanksAtStart : Bool := false
  skipsBlanksAtEnd : Bool := false
  /-- Whether only blanks, letters and digits count. -/
  plain : Bool := false
  folded : Bool := false
  /-- Whether only characters count that can be printed. -/
  printable : Bool := false
  numeric : Bool := false
  /-- Numbers with powers of ten. -/
  general : Bool := false
  /-- Numbers with letters for greater units. -/
  units : Bool := false
  months : Bool := false
  versions : Bool := false
  reversed : Bool := false
  deriving DecidableEq

namespace KeyOrder

/-- With what a letter asks for; `atEnd` says that it belongs to the end of a key. -/
def with? (k : KeyOrder) (atEnd : Bool) (letter : Char) : Option KeyOrder :=
  match letter with
  | 'b' => some (if atEnd then { k with skipsBlanksAtEnd := true }
      else { k with skipsBlanksAtStart := true })
  | 'd' => some { k with plain := true }
  | 'f' => some { k with folded := true }
  | 'g' => some { k with general := true }
  | 'h' => some { k with units := true }
  | 'i' => some { k with printable := true }
  | 'M' => some { k with months := true }
  | 'n' => some { k with numeric := true }
  | 'r' => some { k with reversed := true }
  | 'V' => some { k with versions := true }
  | _ => none

end KeyOrder

/-- A decimal number: its sign, the digits before the point and those behind it. -/
structure PlainNumber where
  negative : Bool
  whole : Nat
  fraction : List Char

/-- The number that a text starts with, after blanks; without digits it is zero. -/
def PlainNumber.ofText (s : List Char) : PlainNumber × List Char :=
  let s := s.dropWhile fun c => c == ' ' || c == '\t'
  let (negative, s) := match s with
    | '-' :: s => (true, s)
    | s => (false, s)
  let whole := s.takeWhile Char.isDigit
  match s.drop whole.length with
  | '.' :: rest =>
      let fraction := rest.takeWhile Char.isDigit
      (⟨negative, ofDigits 10 whole, fraction⟩, rest.drop fraction.length)
  | rest => (⟨negative, ofDigits 10 whole, []⟩, rest)

def PlainNumber.inUnits (n : PlainNumber) (places : Nat) : Int :=
  let fraction := n.fraction ++ List.replicate (places - n.fraction.length) '0'
  let size : Int := (n.whole * 10 ^ places + ofDigits 10 fraction : Nat)
  if n.negative then -size else size

def PlainNumber.compare (a b : PlainNumber) : Ordering :=
  let places := max a.fraction.length b.fraction.length
  Ord.compare (a.inUnits places) (b.inUnits places)

/-- The rank of the unit behind a number, negative for negative numbers. -/
def unitRank (s : List Char) : Int :=
  let (n, rest) := PlainNumber.ofText s
  let rank : Int := match rest.head? with
    | some 'K' => 1
    | some 'k' => 1
    | some 'M' => 2
    | some 'G' => 3
    | some 'T' => 4
    | some 'P' => 5
    | some 'E' => 6
    | some 'Z' => 7
    | some 'Y' => 8
    | _ => 0
  if n.whole = 0 && n.fraction.all (· == '0') then 0 else if n.negative then -rank else rank

/-- A number with a power of ten, as a rank among all texts and its size: texts that are no number come
    first. -/
def generalNumber (s : List Char) : Nat × PlainNumber × Int :=
  let s := s.dropWhile fun c => c == ' ' || ('\t' ≤ c && c ≤ '\r')
  let (plus, s) := match s with
    | '+' :: s => (true, s)
    | s => (false, s)
  let (n, rest) := PlainNumber.ofText s
  let body := if s.head? = some '-' then s.drop 1 else s
  let hasDigits := body.head?.any Char.isDigit ||
    (body.head? == some '.' && (body.drop 1).head?.any Char.isDigit)
  let isInfinite := (body.take 3).map Char.toLower == ['i', 'n', 'f']
  if isInfinite then (if s.head? = some '-' then 1 else 3, n, 0)
  else if !hasDigits || (plus && s.head? == some '-') then (0, n, 0)
  else
    let power : Int := match rest with
      | e :: rest =>
          if e = 'e' || e = 'E' then
            match rest with
            | '-' :: rest => -(ofDigits 10 ((rest.takeWhile Char.isDigit).take 5) : Int)
            | '+' :: rest => ofDigits 10 ((rest.takeWhile Char.isDigit).take 5)
            | rest => ofDigits 10 ((rest.takeWhile Char.isDigit).take 5)
          else 0
      | [] => 0
    (2, n, power)

/-- Compares texts as numbers with powers of ten. -/
def compareGeneral (a b : List Char) : Ordering :=
  let (rankA, a, powerA) := generalNumber a
  let (rankB, b, powerB) := generalNumber b
  if rankA ≠ rankB ∨ rankA ≠ 2 then Ord.compare rankA rankB
  else
    let places := max a.fraction.length b.fraction.length
    let least := min powerA powerB
    let scale := fun (n : Int) (power : Int) => n * (10 : Int) ^ (min (power - least) 5000).toNat
    Ord.compare (scale (a.inUnits places) powerA) (scale (b.inUnits places) powerB)

/-- The number of the month that a text starts with, zero if there is none. -/
def monthRank (s : List Char) : Nat :=
  let s := s.dropWhile fun c => c == ' ' || c == '\t'
  let names := ["JAN", "FEB", "MAR", "APR", "MAY", "JUN", "JUL", "AUG", "SEP", "OCT", "NOV", "DEC"]
  match names.idxOf? (String.ofList ((s.take 3).map Char.toUpper)) with
  | some i => i + 1
  | none => 0

/-- The rank of a character between the numbers of a version, behind which a text ends with zero: a tilde stands
    before the end of the text, and letters before all other characters. -/
def versionRank (c : Char) : Int :=
  if c = '~' then -1
  else if c.isDigit then 0
  else if c.isAlpha then c.toNat
  else c.toNat + 256

/-- The parts of a version, as they are compared: each character that is no digit by its rank, and each run of
    digits as a number, which stands where the end of a text does if it is zero. -/
def versionParts : List Char → List (Int × Nat)
  | [] => []
  | c :: rest =>
      if c.isDigit then
        (0, ofDigits 10 (c :: rest.takeWhile Char.isDigit)) :: versionParts (rest.dropWhile Char.isDigit)
      else (versionRank c, 0) :: versionParts rest
termination_by s => s.length
decreasing_by
  · exact Nat.lt_succ_of_le (List.dropWhile_sublist Char.isDigit).length_le
  · exact Nat.lt_succ_self _

def compareVersionPart (x y : Int × Nat) : Ordering := (Ord.compare x.1 y.1).then (Ord.compare x.2 y.2)

/-- Compares the first parts of two versions, which go on with ends behind the last part. -/
def compareVersionParts : Nat → List (Int × Nat) → List (Int × Nat) → Ordering
  | 0, _, _ => .eq
  | n + 1, xs, ys =>
      (compareVersionPart (xs.headD (0, 0)) (ys.headD (0, 0))).then (compareVersionParts n xs.tail ys.tail)

def compareVersions (a b : List Char) : Ordering :=
  compareVersionParts (max (versionParts a).length (versionParts b).length) (versionParts a) (versionParts b)

/-- Compares two keys. -/
def KeyOrder.compare (k : KeyOrder) (a b : List Char) : Ordering :=
  let kept := fun (s : List Char) =>
    let s := if k.plain then s.filter fun c => c == ' ' || c == '\t' || c.isAlphanum
      else if k.printable then s.filter fun c => decide (' ' ≤ c) && decide (c ≤ '~') else s
    if k.folded then s.map Char.toUpper else s
  let result :=
    if k.numeric then (PlainNumber.ofText a).1.compare (PlainNumber.ofText b).1
    else if k.general then compareGeneral a b
    else if k.units then
      (Ord.compare (unitRank a) (unitRank b)).then
        ((PlainNumber.ofText a).1.compare (PlainNumber.ofText b).1)
    else if k.months then Ord.compare (monthRank a) (monthRank b)
    else if k.versions then compareVersions (kept a) (kept b)
    else Ord.compare (kept a) (kept b)
  if k.reversed then result.swap else result

/-! ## Keys -/

/-- A key: where it starts and ends, in fields and characters, and how it is compared. -/
structure SortKey where
  startField : Nat
  startChar : Nat
  /-- The field of the end, or nothing for the end of the line. -/
  endField : Option Nat
  /-- The number of characters of that field, or zero for all. -/
  endChar : Nat
  order : KeyOrder

/-- What is left of a line behind some fields. -/
def afterFields (separator : Option Char) : Nat → List Char → List Char
  | 0, s => s
  | n + 1, s =>
      match separator with
      | some c => afterFields separator n ((s.dropWhile (· != c)).drop 1)
      | none =>
          let isBlank := fun (c : Char) => c == ' ' || c == '\t'
          afterFields separator n ((s.dropWhile isBlank).dropWhile (!isBlank ·))

/-- The text of a key in a line. -/
def SortKey.text (k : SortKey) (separator : Option Char) (line : List Char) : List Char :=
  let isBlank := fun (c : Char) => c == ' ' || c == '\t'
  let skip := fun (skips : Bool) (s : List Char) => if skips then s.dropWhile isBlank else s
  let start := (skip k.order.skipsBlanksAtStart (afterFields separator (k.startField - 1) line)).drop
    (k.startChar - 1)
  match k.endField with
  | none => start
  | some field =>
      let stop :=
        if k.endChar = 0 then
          let before := afterFields separator (field - 1) line
          match separator with
          | some c => before.dropWhile (· != c)
          | none => (before.dropWhile isBlank).dropWhile (!isBlank ·)
        else
          (skip k.order.skipsBlanksAtEnd (afterFields separator (field - 1) line)).drop k.endChar
      start.take (start.length - stop.length)

/-- Reads a place of a key: a field, and a character behind a point. -/
def readKeyPlace (s : List Char) : Nat × Nat × List Char :=
  let field := s.takeWhile Char.isDigit
  match s.drop field.length with
  | '.' :: rest =>
      let char := rest.takeWhile Char.isDigit
      (ofDigits 10 field, ofDigits 10 char, rest.drop char.length)
  | rest => (ofDigits 10 field, 0, rest)

/-- Reads a key. -/
def SortKey.ofText (s : List Char) : Except (List Char) SortKey :=
  let (field, char, rest) := readKeyPlace s
  let letters := rest.takeWhile (· != ',')
  let collect := fun (atEnd : Bool) (k : Option KeyOrder) (letters : List Char) =>
    letters.foldl (fun k letter => k.bind fun k => k.with? atEnd letter) k
  if !(s.head?.any Char.isDigit) then
    .error ("invalid number at field start: invalid count at start of ".toList ++ quoted s)
  else if field = 0 then
    .error ("field number is zero: invalid field specification ".toList ++ quoted s)
  else if (s.drop (decimal field).length).head? = some '.' && char = 0 then
    .error ("character offset is zero: invalid field specification ".toList ++ quoted s)
  else
    let order := collect false (some {}) letters
    let order? := match rest.drop letters.length with
      | _ :: rest =>
          let (_, _, rest) := readKeyPlace rest
          collect true order rest
      | [] => order
    match order?, rest.drop letters.length with
    | none, _ =>
        .error ("stray character in field spec: invalid field specification ".toList ++ quoted s)
    | some order, [] => .ok ⟨field, max 1 char, none, 0, order⟩
    | some order, _ :: rest =>
        let (lastField, lastChar, _) := readKeyPlace rest
        if !(rest.head?.any Char.isDigit) then
          .error ("invalid number after ',': invalid count at start of ".toList ++ quoted rest)
        else if lastField = 0 then
          .error ("field number is zero: invalid field specification ".toList ++ quoted s)
        else .ok ⟨field, max 1 char, some lastField, lastChar, order⟩

/-! ## Putting lines in order -/

/-- How lines are put in order. -/
structure LineOrder where
  keys : List SortKey
  separator : Option Char
  /-- Whether lines whose keys are equal stay as they are. -/
  stable : Bool
  unique : Bool
  reversed : Bool

def LineOrder.compareKeys (o : LineOrder) (a b : List Char) : Ordering :=
  o.keys.foldl (fun result k =>
    result.then (k.order.compare (k.text o.separator a) (k.text o.separator b))) .eq

/-- Compares two lines: by their keys, and in the end by all of them. -/
def LineOrder.compare (o : LineOrder) (a b : List Char) : Ordering :=
  let result := o.compareKeys a b
  if !o.keys.isEmpty && (o.stable || o.unique) then result
  else result.then (if o.reversed then Ord.compare b a else Ord.compare a b)

def LineOrder.withoutEqual (o : LineOrder) : List (List Char) → List (List Char)
  | a :: b :: rest =>
      if o.compare a b == .eq then o.withoutEqual (a :: rest)
      else a :: o.withoutEqual (b :: rest)
  | lines => lines
termination_by lines => lines.length

def LineOrder.sort (o : LineOrder) (lines : List (List Char)) : List (List Char) :=
  let sorted := lines.mergeSort fun a b => o.compare a b != .gt
  if o.unique then o.withoutEqual sorted else sorted

def LineOrder.disorder? (o : LineOrder) : Nat → List (List Char) → Option (Nat × List Char)
  | n, a :: b :: rest =>
      let result := o.compare a b
      if result == .gt || (o.unique && result == .eq) then some (n + 1, b)
      else disorder? o (n + 1) (b :: rest)
  | _, _ => none

/-- The switches of the tool that puts lines in order. -/
def sortSwitches : SwitchTable :=
  .ofText "bcCdfghiMnrRVmo:k:st:uzS:T:\x01:" [
    ("ignore-leading-blanks", 'b'), ("check", 'c'), ("dictionary-order", 'd'), ("ignore-case", 'f'),
    ("general-numeric-sort", 'g'), ("human-numeric-sort", 'h'), ("ignore-nonprinting", 'i'),
    ("month-sort", 'M'), ("numeric-sort", 'n'), ("reverse", 'r'), ("random-sort", 'R'),
    ("version-sort", 'V'), ("merge", 'm'), ("output", 'o'), ("key", 'k'), ("stable", 's'),
    ("field-separator", 't'), ("unique", 'u'), ("zero-terminated", 'z'), ("buffer-size", 'S'),
    ("temporary-directory", 'T'), ("parallel", '\x01')]

/-- The character that separates fields. -/
def separatorOf : Option (List Char) → Except (List Char) (Option Char)
  | none => .ok none
  | some [] => .error "empty tab".toList
  | some [c] => .ok (some c)
  | some ['\\', '0'] => .ok (some '\x00')
  | some other => .error ("multi-character tab ".toList ++ quoted other)

/-- The tool that puts lines in order. -/
def sortTool (call : ToolCall) : ToolAnswer :=
  call.withSwitches "sort" 2 sortSwitches fun given =>
    let common := (given.given.map (·.1)).foldl (fun (k : KeyOrder) letter =>
      (k.with? false letter).getD k) {}
    let common := { common with skipsBlanksAtEnd := common.skipsBlanksAtStart }
    let parts := do
      let keys ← (given.values 'k').mapM SortKey.ofText
      let separator ← separatorOf (given.value? 't')
      .ok (keys, separator)
    match parts with
    | .error message => .complaining "sort" 2 message
    | .ok (keys, separator) =>
        let whole : KeyOrder := { common with reversed := false }
        let keys := keys.map fun k =>
          if k.order = ({} : KeyOrder) then { k with order := common } else k
        let keys :=
          if keys.isEmpty && whole != ({} : KeyOrder) then [⟨1, 1, none, 0, common⟩] else keys
        let order : LineOrder := ⟨keys, separator, given.has 's', given.has 'u', common.reversed⟩
        let lineEnd := if given.has 'z' then '\x00' else '\n'
        let lines := fun (text : List Char) =>
          let lines := Text.splitAll lineEnd text
          if lines.getLast? = some [] then lines.dropLast else lines
        let m := call.material (fun file reason =>
          if reason = "Is a directory" then
            "sort: read failed: ".toList ++ file ++ (": " ++ reason).toList
          else "sort: cannot read: ".toList ++ file ++ (": " ++ reason).toList) given.operands
        let checks := given.has 'c' || given.has 'C'
        if checks && given.operands.length > 1 then
          .complaining "sort" 2 ("extra operand ".toList ++ quoted ((given.operands[1]?).getD []) ++
            (if given.has 'C' then " not allowed with -C" else " not allowed with -c").toList)
        else
          match m.complaints with
          | complaint :: _ => ⟨[], complaint, 2, m.usedInput⟩
          | [] =>
              if checks then
                let (name, text) := m.texts.headD ([], [])
                match order.disorder? 1 (lines text) with
                | none => ⟨[], [], 0, m.usedInput⟩
                | some (n, line) =>
                    let report := "sort: ".toList ++ (if name.isEmpty then ['-'] else name) ++
                      ':' :: decimal n ++ ": disorder: ".toList ++ line ++ ['\n']
                    ⟨[], if given.has 'C' then [] else report, 1, m.usedInput⟩
              else
                let all := m.texts.map fun (_, text) => lines text
                let sorted :=
                  if given.has 'm' then
                    let merged := all.foldl (fun done lines =>
                      List.merge done lines fun a b => order.compare a b != .gt) []
                    if order.unique then order.withoutEqual merged else merged
                  else order.sort all.flatten
                ⟨sorted.flatMap (· ++ [lineEnd]), [], 0, m.usedInput⟩

/-! ## Repeated lines -/

/-- The switches of the tool that leaves out repeated lines. -/
def uniqueSwitches : SwitchTable :=
  .ofText "cdDuif:s:w:z" [
    ("count", 'c'), ("repeated", 'd'), ("all-repeated", 'D'), ("unique", 'u'), ("ignore-case", 'i'),
    ("skip-fields", 'f'), ("skip-chars", 's'), ("check-chars", 'w'), ("zero-terminated", 'z')]

/-- The tool that leaves out repeated lines. -/
def uniqueTool (call : ToolCall) : ToolAnswer :=
  call.withSwitches "uniq" 1 uniqueSwitches fun given =>
    let wrong := [('f', ": invalid number of fields to skip"),
      ('s', ": invalid number of bytes to skip"),
      ('w', ": invalid number of bytes to compare")].findSome? fun (letter, message) =>
        ((given.value? letter).filter fun v => (countOf? v).isNone).map fun v =>
          v ++ message.toList
    match wrong, given.operands with
    | some message, _ => .complaining "uniq" 1 message
    | none, _ :: _ :: extra :: _ => .advising "uniq" 1 ("extra operand ".toList ++ quoted extra)
    | none, operands =>
        let number := fun (letter : Char) => (given.value? letter).bind countOf?
        let key := fun (line : List Char) =>
          let s := (afterFields none ((number 'f').getD 0) line).drop ((number 's').getD 0)
          let s := match number 'w' with
            | some n => s.take n
            | none => s
          if given.has 'i' then s.map Char.toLower else s
        let names := (operands.take 1).filter (· != ['-'])
        call.onTexts (complaintOf "uniq") names fun texts =>
          let runs := (texts.flatMap fun (_, text) => linesOfText text).splitBy fun a b => key a == key b
          let runs :=
            if given.has 'd' || given.has 'D' then runs.filter (1 < ·.length) else runs
          let runs := if given.has 'u' then runs.filter (·.length == 1) else runs
          textOfLines (runs.flatMap fun run =>
            if given.has 'D' then run
            else
              (run.take 1).map fun line =>
                if given.has 'c' then padLeft 7 (decimal run.length) ++ ' ' :: line else line)

/-! ## Two files in order -/

/-- The lines of two files in order: those that only one has, and those that both have. -/
def compareLines : Nat → List (List Char) → List (List Char) → List (Nat × List Char)
  | 0, _, _ => []
  | _ + 1, [], b => b.map (2, ·)
  | _ + 1, a, [] => a.map (1, ·)
  | fuel + 1, a :: restA, b :: restB =>
      match Ord.compare a b with
      | .lt => (1, a) :: compareLines fuel restA (b :: restB)
      | .gt => (2, b) :: compareLines fuel (a :: restA) restB
      | .eq => (3, a) :: compareLines fuel restA restB

/-- Reads the two files of a tool. -/
def ToolCall.twoTexts (call : ToolCall) (tool : String) (given : Switches)
    (f : List Char → List Char → ToolAnswer) : ToolAnswer :=
  match given.operands with
  | [] => .advising tool 1 "missing operand".toList
  | [first] => .advising tool 1 ("missing operand after ".toList ++ quoted first)
  | [first, second] =>
      let read := fun (name : List Char) => if name = ['-'] then .ok call.input else call.read name
      match read first, read second with
      | .error e, _ => .complaining tool 1 (first ++ (": " ++ fileReason e).toList)
      | _, .error e => .complaining tool 1 (second ++ (": " ++ fileReason e).toList)
      | .ok a, .ok b => { f a b with usedInput := first = ['-'] || second = ['-'] }
  | _ :: _ :: extra :: _ => .advising tool 1 ("extra operand ".toList ++ quoted extra)

/-- The tool that compares two files in order. -/
def compareTool (call : ToolCall) : ToolAnswer :=
  let table := SwitchTable.ofText "123z\x01:\x02\x03\x04" [
    ("output-delimiter", '\x01'), ("check-order", '\x02'), ("nocheck-order", '\x03'),
    ("total", '\x04')]
  call.withSwitches "comm" 1 table fun given =>
    call.twoTexts "comm" given fun a b =>
      let between := (given.value? '\x01').getD ['\t']
      let hides := fun (column : Nat) => given.has (Char.ofNat (column + '0'.toNat))
      let linesA := linesOfText a
      let linesB := linesOfText b
      let rows := compareLines (linesA.length + linesB.length + 1) linesA linesB
      let before := fun (column : Nat) =>
        ((List.range (column - 1)).filter fun i => !hides (i + 1)).flatMap fun _ => between
      let output := textOfLines ((rows.filter fun (column, _) => !hides column).map
        fun (column, line) => before column ++ line)
      let inOrder := fun (lines : List (List Char)) =>
        (LineOrder.disorder? ⟨[], none, false, false, false⟩ 1 lines).isNone
      let unpaired := rows.any fun (column, _) => column != 3
      let complaints := if !unpaired || given.has '\x03' then []
        else (if inOrder linesA then [] else ["comm: file 1 is not in sorted order\n"]) ++
          (if inOrder linesB then [] else ["comm: file 2 is not in sorted order\n"])
      let complaints :=
        if complaints.isEmpty then [] else complaints ++ ["comm: input is not in sorted order\n"]
      ⟨output, complaints.flatMap String.toList, if complaints.isEmpty then 0 else 1, false⟩

def fieldsOf (separator : Option Char) (line : List Char) : List (List Char) :=
  match separator with
  | some c => Text.splitAll c line
  | none => (line.splitOnP (fun c => c == ' ' || c == '\t')).filter (!·.isEmpty)

/-- The tool that joins the lines of two files that have a field in common. -/
def joinTool (call : ToolCall) : ToolAnswer :=
  let table := SwitchTable.ofText "1:2:j:t:a:v:e:o:iz\x01\x02" [
    ("ignore-case", 'i'), ("check-order", '\x01'), ("nocheck-order", '\x02')]
  call.withSwitches "join" 1 table fun given =>
    call.twoTexts "join" given fun a b =>
      let separator := (given.value? 't').bind List.head?
      let between := [separator.getD ' ']
      let number := fun (letter : Char) =>
        (((given.value? letter).or (given.value? 'j')).bind countOf?).getD 1
      let empty := (given.value? 'e').getD []
      let field := fun (fields : List (List Char)) (n : Nat) =>
        match fields[n - 1]? with
        | some [] => empty
        | some s => s
        | none => empty
      let key := fun (fields : List (List Char)) (n : Nat) =>
        let s := (fields[n - 1]?).getD []
        if given.has 'i' then s.map Char.toLower else s
      let rowsA := (linesOfText a).map (fieldsOf separator)
      let rowsB := (linesOfText b).map (fieldsOf separator)
      let wanted := (given.values 'o').flatMap fun v =>
        (v.splitOnP (fun c => c == ',' || c == ' ')).filter (!·.isEmpty)
      let others := fun (fields : List (List Char)) (n : Nat) =>
        (fields.zipIdx.filter fun (_, i) => i + 1 != n).map fun (s, _) => s
      let line := fun (x y : Option (List (List Char))) =>
        let shared := match x, y with
          | some x, _ => field x (number '1')
          | none, some y => field y (number '2')
          | none, none => []
        let cells :=
          if wanted.isEmpty then
            shared :: ((x.map (others · (number '1'))).getD [] ++
              (y.map (others · (number '2'))).getD [])
          else
            wanted.map fun place =>
              match place with
              | '1' :: '.' :: n => (x.map (field · (ofDigits 10 n))).getD empty
              | '2' :: '.' :: n => (y.map (field · (ofDigits 10 n))).getD empty
              | _ => shared
        (cells.intersperse between).flatten
      let keysA := rowsA.map (key · (number '1'))
      let keysB := rowsB.map (key · (number '2'))
      let hasUnpaired := fun (n : Char) => (given.values 'a').contains [n] ||
        (given.values 'v').contains [n]
      let pairs := !given.has 'v'
      -- both sides are in order, so each step takes all rows of one key off both
      let rec walk : Nat → List (List (List Char)) → List (List (List Char)) → List (List Char)
        | 0, _, _ => []
        | _ + 1, [], ys => if hasUnpaired '2' then ys.map fun y => line none (some y) else []
        | fuel + 1, x :: xs, ys =>
            let k := key x (number '1')
            let before := ys.takeWhile fun y => decide (key y (number '2') < k)
            let rest := ys.drop before.length
            let equal := rest.takeWhile fun y => key y (number '2') == k
            let sameX := (x :: xs).takeWhile fun x => key x (number '1') == k
            let early := if hasUnpaired '2' then before.map fun y => line none (some y) else []
            let here :=
              if equal.isEmpty then
                if hasUnpaired '1' then sameX.map fun x => line (some x) none else []
              else if pairs then
                sameX.flatMap fun x => equal.map fun y => line (some x) (some y)
              else []
            early ++ here ++ walk fuel ((x :: xs).drop sameX.length) (rest.drop equal.length)
      let inOrder := fun (keys : List (List Char)) =>
        LineOrder.disorder? ⟨[], none, false, false, false⟩ 1 keys
      let complaint := fun (name : List Char) (keys : List (List Char))
          (lines : List (List Char)) =>
        match inOrder keys with
        | some (i, _) =>
            "join: ".toList ++ name ++ ':' :: decimal i ++ ": is not sorted: ".toList ++
              (lines[i - 1]?).getD [] ++ ['\n']
        | none => []
      let names := given.operands
      let complaints := complaint (names.headD []) keysA (linesOfText a) ++
        complaint ((names[1]?).getD []) keysB (linesOfText b)
      -- lines out of order matter only if some line finds no partner
      let isPaired := fun (keys others : List (List Char)) => keys.all others.contains
      let allPaired := isPaired keysA keysB && isPaired keysB keysA
      let failed := !complaints.isEmpty && !allPaired && !given.has '\x02'
      ⟨textOfLines (walk (rowsA.length + 1) rowsA rowsB),
        if failed then complaints ++ "join: input is not in sorted order\n".toList else [],
        if failed then 1 else 0, false⟩

end CodeBlock.Shell
