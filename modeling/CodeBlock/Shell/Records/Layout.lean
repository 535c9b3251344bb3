import CodeBlock.Shell.Format
import CodeBlock.Shell.Records.Value

set_option autoImplicit false

/-! # Formats in scripts over records

A format is filled once, and there have to be enough values for it. Whole numbers are written with all
their digits wherever they become texts, and other numbers by a format. -/

namespace CodeBlock.Shell.Records

/-- What is wrong with a format. -/
inductive LayoutFault where
  | tooFewValues
  /-- The conversion of the number is none. -/
  | badConversion (number : Nat)

/-- The wording of a fault; `name` is the function that was given the format. -/
def LayoutFault.message (name : String) (format : List Char) : LayoutFault → List Char
  | tooFewValues =>
      ("not enough arguments passed to " ++ name ++ "(\"").toList ++ format ++ ['"', ')']
  | badConversion number =>
      ("improper conversion(number " ++ toString number ++ ") in " ++ name ++ "(\"").toList ++ format ++
        ['"', ')']

/-- A whole number of a setting, which is a value where a star stands. -/
def spanCount (s : List Char) (values : List Value) :
    Except LayoutFault (Int × List Char × List Value) :=
  match s, values with
  | '*' :: _, [] => .error .tooFewValues
  | '*' :: rest, value :: values => .ok (value.toWhole, rest, values)
  | s, values =>
      let digits := s.takeWhile Char.isDigit
      .ok (ofDigits 10 digits, s.drop digits.length, values)

/-- A value as a conversion wants it, if there is such a conversion. -/
def convert? (write : Binary64 → List Char) (f : Setting) (conversion : Char)
    (value : Value) : Option (List Char) :=
  match conversion with
  | 's' => some (f.text (value.toText write))
  | 'c' =>
      let c := match value with
        | .number _ => Char.ofNat (value.toWhole % 256).toNat
        | value => (value.toText write).headD '\x00'
      some (f.fill [] [c] false)
  | 'F' => none
  | conversion =>
      match formOf? conversion with
      | some (form, capital) =>
          let x := value.toNumber
          if x = .nan then some (f.fill ['-'] (x.text form capital 6 false) false)
          else some (f.number form capital x)
      | none =>
          if "dioxXu".toList.contains conversion then some (f.integer conversion value.toWhole)
          else none

/-- Fills a format: what was written until it ended, and what is wrong with it. `count` is the number of
    the next conversion. -/
def fillFormat (write : Binary64 → List Char) :
    Nat → Nat → List Char → List Value → List Char × Option LayoutFault
  | 0, _, _, _ => ([], none)
  | _ + 1, _, [], _ => ([], none)
  | fuel + 1, count, '%' :: '%' :: rest, values =>
      let (text, fault) := fillFormat write fuel count rest values
      ('%' :: text, fault)
  | fuel + 1, count, '%' :: rest, values =>
      let (f, rest) := readFlags ⟨false, false, none, false, 0, none⟩ rest
      let piece : Except LayoutFault (List Char × List Char × List Value) := do
        let (width, rest, values) ← spanCount rest values
        let (precision, rest, values) ← match rest with
          | '.' :: rest => do
              let (n, rest, values) ← spanCount rest values
              .ok (if n < 0 then none else some n.toNat, rest, values)
          | rest => .ok (none, rest, values)
        let f := { f with
          leftward := f.leftward || decide (width < 0), width := width.natAbs, precision := precision }
        match rest.dropWhile fun c => c == 'l' || c == 'h', values with
        | [], _ => .error (.badConversion count)
        | _ :: _, [] => .error .tooFewValues
        | conversion :: rest, value :: values =>
            match convert? write f conversion value with
            | some text => .ok (text, rest, values)
            | none => .error (.badConversion count)
      match piece with
      | .error fault => ([], some fault)
      | .ok (piece, rest, values) =>
          let (text, fault) := fillFormat write fuel (count + 1) rest values
          (piece ++ text, fault)
  | fuel + 1, count, c :: rest, values =>
      let (text, fault) := fillFormat write fuel count rest values
      (c :: text, fault)

/-- A number as a text: whole ones with all their digits, others by a format. -/
def numberText (format : List Char) (x : Binary64) : List Char :=
  match x with
  | .nan => "-nan".toList
  | .infinite negative => (if negative then "-inf" else "inf").toList
  | x =>
      match x.whole? with
      | some n =>
          if -(2 ^ 63) ≤ n && n ≤ 2 ^ 64 then (toString (min n (2 ^ 64 - 1))).toList
          else byFormat x
      | none => byFormat x
where
  byFormat (x : Binary64) : List Char :=
    (fillFormat (fun _ => []) (format.length + 1) 1 format [.number x]).1

end CodeBlock.Shell.Records
