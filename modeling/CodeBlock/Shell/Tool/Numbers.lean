import CodeBlock.Number.Sum
import CodeBlock.Shell.Format
import CodeBlock.Shell.Tool.Basic
import CodeBlock.Text.Split

set_option autoImplicit false

/-! # Rows of numbers

A tool that prints rows of numbers, and one that takes numbers apart. The numbers of a row are exact
decimal ones, counted in units of their last place. -/

namespace CodeBlock.Shell

/-- An exact decimal number: how many units it has, and how many places its unit stands behind the
    point. -/
structure PlacedNumber where
  units : Int
  places : Nat
  /-- How wide it was written before the point. -/
  width : Nat

namespace PlacedNumber

/-- The number in smaller units. -/
def scaled (n : PlacedNumber) (places : Nat) : Int := n.units * (10 : Int) ^ (places - n.places)

/-- The number that a text is. -/
def ofText? (s : List Char) : Option PlacedNumber :=
  let s := s.dropWhile fun c => c == ' '
  let (negative, body) := match s with
    | '-' :: body => (true, body)
    | '+' :: body => (false, body)
    | body => (false, body)
  let sign := fun (n : Nat) => if negative then -(n : Int) else n
  if startsWithWord "0x" body then
    let digits := body.drop 2
    if digits.isEmpty || !digits.all fun c => (sixteenValue? c).isSome then none
    else
      let n := digits.foldl (fun n c => 16 * n + (sixteenValue? c).getD 0) 0
      some ⟨sign n, 0, (decimal n).length⟩
  else
    match spanPointed Char.isDigit body with
    | none => none
    | some (digits, places, rest) =>
        let (power, rest) := spanPower 'e' rest
        if !rest.isEmpty || 1000 < power.natAbs then none
        else
          let n := ofDigits 10 digits
          let whole := digits.length - places + (if negative then 1 else 0)
          if power < places then
            some ⟨sign n, (places - power).toNat, max 1 (whole + power).toNat⟩
          else some ⟨sign (n * 10 ^ (power - places).toNat), 0, (whole + power).toNat⟩

end PlacedNumber

/-- A number of units written with its places. -/
def placedText (places : Nat) (units : Int) : List Char :=
  let digits := decimal units.natAbs
  let digits := List.replicate (places + 1 - digits.length) '0' ++ digits
  let whole := digits.take (digits.length - places)
  (if units < 0 then ['-'] else []) ++ whole ++
    (if places = 0 then [] else '.' :: digits.drop (digits.length - places))

/-- A number filled up with zeros behind its sign. -/
def filledUp (width : Nat) (s : List Char) : List Char :=
  match s with
  | '-' :: digits => '-' :: (List.replicate (width - s.length) '0' ++ digits)
  | digits => List.replicate (width - digits.length) '0' ++ digits

/-- The text before the conversion of a format, the conversion and the text behind it; a doubled percent
    sign stands for itself. -/
def readNumberFormat : Nat → List Char → Except (List Char) (List Char × (Binary64 → List Char) × List Char)
  | 0, _ => .error []
  | _ + 1, [] => .error " has no % directive".toList
  | fuel + 1, '%' :: '%' :: rest =>
      (readNumberFormat fuel rest).map fun (before, f, after) => ('%' :: before, f, after)
  | _ + 1, '%' :: rest =>
      let (setting, rest) := readFlags ⟨false, false, none, false, 0, none⟩ rest
      let width := rest.takeWhile Char.isDigit
      let rest := rest.drop width.length
      let (precision, rest) := match rest with
        | '.' :: rest =>
            let digits := rest.takeWhile Char.isDigit
            (some (ofDigits 10 digits), rest.drop digits.length)
        | rest => (none, rest)
      match rest with
      | [] => .error " ends in %".toList
      | c :: after =>
          match formOf? c with
          | none => .error (" has unknown %".toList ++ c :: " directive".toList)
          | some (form, capital) =>
              if (after.filter (· == '%')).length % 2 = 1 then
                .error " has too many % directives".toList
              else
                let after := (after.foldl (fun (kept, doubled) c =>
                  if c = '%' && doubled then (kept, false)
                  else (c :: kept, c == '%')) (([] : List Char), false)).1.reverse
                .ok ([], ({ setting with
                  width := ofDigits 10 width, precision := precision }).number form capital, after)
  | fuel + 1, c :: rest =>
      (readNumberFormat fuel rest).map fun (before, f, after) => (c :: before, f, after)

/-- How many numbers a row may have. -/
def rowLimit : Nat := 3000000

/-- The tool that prints rows of numbers. -/
def sequenceTool (call : ToolCall) : ToolAnswer :=
  let table := SwitchTable.ofText "f:s:w" [
    ("format", 'f'), ("separator", 's'), ("equal-width", 'w')]
  -- what starts like a negative number is no switch
  let isNumber := fun (a : List Char) =>
    match a with
    | '-' :: c :: _ => c.isDigit || c == '.'
    | '-' :: [] => false
    | _ => false
  let switches := call.arguments.takeWhile fun a => !isNumber a
  match table.read true switches with
  | .error fault => .advising "seq" 1 fault.message
  | .ok given =>
      let operands := given.operands ++ call.arguments.drop switches.length
      match operands.find? fun a => (PlacedNumber.ofText? a).isNone with
      | some wrong =>
          .advising "seq" 1 ("invalid floating point argument: ".toList ++ quoted wrong)
      | none =>
          let row := fun (first step last : PlacedNumber) (written : List Char) =>
            if step.units = 0 then
              .advising "seq" 1 ("invalid Zero increment value: ".toList ++ quoted written)
            else
              let common := max first.places (max step.places last.places)
              let places := max first.places step.places
              let start := first.scaled common
              let by_ := step.scaled common
              let count := (Int.fdiv (last.scaled common - start) by_ + 1).toNat
              let units := (List.range (min count rowLimit)).map fun (i : Nat) =>
                start + by_ * (i : Int)
              let plain := fun (n : Int) => placedText places (n / (10 : Int) ^ (common - places))
              let separator := (given.value? 's').getD ['\n']
              let print := fun (texts : List (List Char)) =>
                ToolAnswer.printing
                  (if texts.isEmpty then [] else (texts.intersperse separator).flatten ++ ['\n'])
              match given.value? 'f' with
              | some format =>
                  match readNumberFormat (format.length + 1) format with
                  | .error message => .complaining "seq" 1 ("format ".toList ++ quoted format ++ message)
                  | .ok (before, f, after) =>
                      print (units.map fun n =>
                        before ++ f (Decimal.toBinary64 ⟨decide (n < 0), n.natAbs, -common⟩) ++ after)
              | none =>
                  let texts := units.map plain
                  if given.has 'w' then
                    let fraction := if places = 0 then 0 else places + 1
                    let width := fraction + max first.width last.width
                    print (texts.map (filledUp width))
                  else print texts
          let one : PlacedNumber := ⟨1, 0, 1⟩
          match operands.filterMap PlacedNumber.ofText?, operands with
          | [last], _ => row one one last []
          | [first, last], _ => row first one last []
          | [first, step, last], _ => row first step last ((operands[1]?).getD [])
          | [], _ => .advising "seq" 1 "missing operand".toList
          | _, _ => .advising "seq" 1 ("extra operand ".toList ++ quoted ((operands[3]?).getD []))

/-! ## Factors -/

/-- The prime factors of a number from a first one on; `fuel` bounds how many are tried. -/
def factorsFrom : Nat → Nat → Nat → List Nat
  | 0, _, n => if 1 < n then [n] else []
  | fuel + 1, p, n =>
      if n < p * p then (if 1 < n then [n] else [])
      else if n % p = 0 then p :: factorsFrom fuel p (n / p)
      else factorsFrom fuel (if p = 2 then 3 else p + 2) n

/-- The tool that takes numbers apart. -/
def factorTool (call : ToolCall) : ToolAnswer :=
  match (SwitchTable.ofText "h" [("exponents", 'h')]).read false call.arguments with
  | .error fault => .advising "factor" 1 fault.message
  | .ok given =>
      let words := if given.operands.isEmpty then
          (call.input.splitOnP (fun c => c == ' ' || c == '\n' || c == '\t')).filter (!·.isEmpty)
        else given.operands
      let lines := words.filterMap fun w =>
        (countOf? w).map fun n =>
          decimal n ++ [':'] ++ (factorsFrom 4000000 2 n).flatMap fun p => ' ' :: decimal p
      let wrong := words.filter fun w => (countOf? w).isNone
      ⟨textOfLines lines, wrong.flatMap fun w =>
          "factor: ".toList ++ quoted w ++ " is not a valid positive integer\n".toList,
        if wrong.isEmpty then 0 else 1, given.operands.isEmpty⟩

end CodeBlock.Shell
