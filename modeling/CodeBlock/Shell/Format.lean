import CodeBlock.Number.Places
import CodeBlock.Number.Span
import CodeBlock.Shell.Arithmetic

set_option autoImplicit false

/-! # Formatted texts

Two commands print what they are given with escapes: one prints its arguments with a space between
them, the other fills them into a format, as often as it takes to use them all up. -/

namespace CodeBlock.Shell

/-! ## Escapes -/

/-- The character that a letter stands for after a backslash. -/
def escapeOf? (c : Char) : Option Char :=
  match c with
  | '\\' => some '\\'
  | 'a' => some '\x07'
  | 'b' => some '\x08'
  | 'e' => some '\x1b'
  | 'f' => some '\x0c'
  | 'n' => some '\n'
  | 'r' => some '\r'
  | 't' => some '\t'
  | 'v' => some '\x0b'
  | _ => none

/-- Whether `c` is a digit of a number with base eight. -/
def isOctal (c : Char) : Bool := decide ('0' ≤ c) && decide (c ≤ '7')

/-- The byte that the digits before the third one or the first other character denote, and what
    follows. -/
def spanOctal (s : List Char) : Char × List Char :=
  let digits := (s.take 3).takeWhile isOctal
  (Char.ofNat (ofDigits 8 digits % 256), s.drop digits.length)

/-- A text with its escapes replaced, and whether it may go on: `\c` ends all printing. -/
def unescape : Nat → List Char → List Char × Bool
  | 0, s => (s, true)
  | _ + 1, [] => ([], true)
  | fuel + 1, '\\' :: rest =>
      match rest with
      | 'c' :: _ => ([], false)
      | '0' :: rest =>
          let (c, rest) := spanOctal rest
          let (text, more) := unescape fuel rest
          (c :: text, more)
      | d :: rest =>
          if isOctal d then
            let (c, rest) := spanOctal (d :: rest)
            let (text, more) := unescape fuel rest
            (c :: text, more)
          else
            match escapeOf? d with
            | some c =>
                let (text, more) := unescape fuel rest
                (c :: text, more)
            | none =>
                let (text, more) := unescape fuel rest
                ('\\' :: d :: text, more)
      | [] => (['\\'], true)
  | fuel + 1, c :: rest =>
      let (text, more) := unescape fuel rest
      (c :: text, more)

/-- What is printed for some arguments: they stand with spaces between them and a line end behind,
    which the option `-n` leaves away. -/
def echoed (arguments : List (List Char)) : List Char :=
  let (arguments, ending) := match arguments with
    | ['-', 'n'] :: arguments => (arguments, [])
    | arguments => (arguments, ['\n'])
  let text := (arguments.intersperse [' ']).flatten
  let (text, more) := unescape (text.length + 1) text
  if more then text ++ ending else text

/-- What the program of the same name prints, which replaces escapes only if it is told to. -/
def plainlyEchoed (arguments : List (List Char)) : List Char :=
  let isOption := fun (a : List Char) =>
    a.head? == some '-' && a.length > 1 && (a.drop 1).all fun c => c == 'n' || c == 'e' || c == 'E'
  let (options, arguments) := arguments.span isOption
  let ending := if options.flatten.contains 'n' then [] else ['\n']
  let text := (arguments.intersperse [' ']).flatten
  if options.flatten.contains 'e' then
    let (text, more) := unescape (text.length + 1) text
    if more then text ++ ending else text
  else text ++ ending

/-! ## Formats -/

/-- How a value is set. -/
structure Setting where
  leftward : Bool
  zeros : Bool
  sign : Option Char
  alternate : Bool
  width : Nat
  precision : Option Nat

/-- The text filled up to the width. -/
def Setting.fill (f : Setting) (sign text : List Char) (isNumber : Bool) : List Char :=
  let missing := f.width - (sign.length + text.length)
  if f.leftward then sign ++ text ++ List.replicate missing ' '
  else if f.zeros && isNumber && f.precision.isNone then sign ++ List.replicate missing '0' ++ text
  else List.replicate missing ' ' ++ sign ++ text

/-- A text as a conversion wants it. -/
def Setting.text (f : Setting) (s : List Char) : List Char :=
  f.fill [] (match f.precision with | some n => s.take n | none => s) false

/-- The digits of a number, at least as many as the precision says; zero needs none. -/
def Setting.digits (f : Setting) (base n : Nat) : List Char :=
  let digits := if n = 0 && f.precision = some 0 then [] else Nat.toDigits base n
  List.replicate (f.precision.getD 0 - digits.length) '0' ++ digits

/-- A whole number as a conversion wants it; those without a sign take it modulo `2 ^ 64`. -/
def Setting.integer (f : Setting) (conversion : Char) (n : Int) : List Char :=
  let unsigned := (n % 2 ^ 64).toNat
  match conversion with
  | 'x' => f.fill (if f.alternate && n != 0 then "0x".toList else []) (f.digits 16 unsigned) true
  | 'X' =>
      f.fill (if f.alternate && n != 0 then "0X".toList else [])
        ((f.digits 16 unsigned).map Char.toUpper) true
  | 'o' =>
      let digits := f.digits 8 unsigned
      f.fill (if f.alternate && digits.head? != some '0' then ['0'] else []) digits true
  | 'u' => f.fill [] (f.digits 10 unsigned) true
  | _ => f.fill (if n < 0 then ['-'] else f.sign.toList) (f.digits 10 n.natAbs) true

/-- The number that an argument denotes, and what is wrong with it. A quote stands for the code of
    the character behind it. -/
def argumentNumber (s : List Char) : Int64 × Option String :=
  match s with
  | [] => (0, none)
  | '\'' :: c :: _ => (Int64.ofNat c.toNat, none)
  | '"' :: c :: _ => (Int64.ofNat c.toNat, none)
  | _ =>
      let t := skipBlanks s
      let (negative, digits) := match t with
        | '-' :: rest => (true, rest)
        | '+' :: rest => (false, rest)
        | t => (false, t)
      if (digits.headD ' ').isDigit then
        let (n, rest) := spanNumber digits
        let n : Int := if negative then -n else n
        (clamp n,
          if !rest.isEmpty then some "not completely converted"
          else if (clamp n).toInt != n then some "Numerical result out of range"
          else none)
      else (0, some "expected numeric value")

/-- The number with a fraction that an argument denotes, and what is wrong with it. -/
def argumentFraction (s : List Char) : Binary64 × Option String :=
  match s with
  | [] => (.zero false, none)
  | '\'' :: c :: _ => (.ofNat c.toNat, none)
  | '"' :: c :: _ => (.ofNat c.toNat, none)
  | _ =>
      match spanBinary64 true (s.dropWhile fun c => c == ' ' || ('\t' ≤ c && c ≤ '\r')) with
      | none => (.zero false, some "expected numeric value")
      | some (x, rest) =>
          (x,
            if !rest.isEmpty then some "not completely converted"
            else if x.isInfinite && s.any Char.isDigit then some "Numerical result out of range"
            else none)

/-- A number as a conversion wants it. -/
def Setting.number (f : Setting) (form : Binary64.Form) (capital : Bool) (x : Binary64) :
    List Char :=
  let text := x.text form capital (f.precision.getD 6) f.alternate
  let isFinite := match x with
    | .finite _ => true
    | _ => false
  { f with precision := none, zeros := f.zeros && isFinite }.fill
    (if x.isNegative then ['-'] else f.sign.toList) text true

/-- The form that a letter stands for, and whether its letters are capitals. -/
def formOf? (conversion : Char) : Option (Binary64.Form × Bool) :=
  match conversion with
  | 'f' => some (.fixed, false)
  | 'F' => some (.fixed, true)
  | 'e' => some (.scientific, false)
  | 'E' => some (.scientific, true)
  | 'g' => some (.shorter, false)
  | 'G' => some (.shorter, true)
  | _ => none

/-- What has come of a format so far. -/
structure Printed where
  /-- What was printed, last piece first. -/
  pieces : List (List Char)
  /-- The arguments that are left. -/
  arguments : List (List Char)
  /-- Complaints about arguments. -/
  complaints : List (List Char)
  /-- Whether printing goes on. -/
  goesOn : Bool
  /-- What is wrong with the format. -/
  error : Option (List Char)

namespace Printed

/-- With a piece printed. -/
def push (p : Printed) (piece : List Char) : Printed := { p with pieces := piece :: p.pieces }

/-- The next argument. -/
def next (p : Printed) : List Char × Printed :=
  match p.arguments with
  | [] => ([], p)
  | a :: rest => (a, { p with arguments := rest })

/-- The next argument as a number. -/
def nextNumber (p : Printed) : Int64 × Printed :=
  let (a, p) := p.next
  match argumentNumber a with
  | (n, none) => (n, p)
  | (n, some reason) =>
      (n, { p with complaints := p.complaints ++ [a ++ (": " ++ reason).toList] })

/-- The next argument as a number with a fraction. -/
def nextFraction (p : Printed) : Binary64 × Printed :=
  let (a, p) := p.next
  match argumentFraction a with
  | (x, none) => (x, p)
  | (x, some reason) =>
      (x, { p with complaints := p.complaints ++ [a ++ (": " ++ reason).toList] })

/-- With a value printed as a conversion wants it. -/
def convert (p : Printed) (f : Setting) (conversion : Char) : Printed :=
  match conversion with
  | '%' => p.push ['%']
  | 's' =>
      let (a, p) := p.next
      p.push (f.text a)
  | 'c' =>
      let (a, p) := p.next
      p.push (f.fill [] (a.take 1) false)
  | 'b' =>
      let (a, p) := p.next
      let (text, more) := unescape (a.length + 1) a
      { p.push (f.fill [] text false) with goesOn := more }
  | _ =>
      match formOf? conversion with
      | some (form, capital) =>
          let (x, p) := p.nextFraction
          p.push (f.number form capital x)
      | none =>
          let (n, p) := p.nextNumber
          p.push (f.integer conversion n.toInt)

end Printed

/-- Reads the signs that say how a value is set. -/
def readFlags (f : Setting) : List Char → Setting × List Char
  | '-' :: rest => readFlags { f with leftward := true } rest
  | '0' :: rest => readFlags { f with zeros := true } rest
  | '+' :: rest => readFlags { f with sign := some '+' } rest
  | ' ' :: rest => readFlags { f with sign := some ' ' } rest
  | '#' :: rest => readFlags { f with alternate := true } rest
  | s => (f, s)

/-- Reads a number of a setting, which is an argument where a star stands. -/
def readCount (p : Printed) (s : List Char) : Nat × Printed × List Char :=
  match s with
  | '*' :: rest =>
      let (n, p) := p.nextNumber
      (n.toInt.toNat, p, rest)
  | s =>
      let (digits, rest) := s.span Char.isDigit
      (ofDigits 10 digits, p, rest)

/-- Prints a format once. -/
def printOnce : Nat → List Char → Printed → Printed
  | 0, _, p => p
  | _ + 1, [], p => p
  | fuel + 1, '\\' :: rest, p =>
      match rest with
      | d :: more =>
          if isOctal d then
            let (c, rest) := spanOctal rest
            printOnce fuel rest (p.push [c])
          else
            match escapeOf? d with
            | some c => printOnce fuel more (p.push [c])
            | none => printOnce fuel more (p.push ['\\', d])
      | [] => p.push ['\\']
  | fuel + 1, '%' :: start, p =>
      let (f, rest) := readFlags ⟨false, false, none, false, 0, none⟩ start
      let (width, p, rest) := readCount p rest
      let (precision, p, rest) := match rest with
        | '.' :: rest =>
            let (n, p, rest) := readCount p rest
            (some n, p, rest)
        | rest => (none, p, rest)
      match rest with
      | conversion :: after =>
          if "sdiuoxXcbfFeEgG%".toList.contains conversion then
            let p := p.convert { f with width := width, precision := precision } conversion
            if p.goesOn then printOnce fuel after p else p
          else
            let directive := '%' :: start.take (start.length - after.length)
            { p with error := some (directive ++ ": invalid directive".toList), goesOn := false }
      | [] => { p with error := some "missing format character".toList, goesOn := false }
  | fuel + 1, c :: rest, p => printOnce fuel rest (p.push [c])

/-- Prints a format as often as it takes to use up the arguments. -/
def printAll (format : List Char) : Nat → Printed → Printed
  | 0, p => p
  | fuel + 1, p =>
      let left := p.arguments.length
      let p := printOnce (format.length + 1) format p
      if p.goesOn && !p.arguments.isEmpty && p.arguments.length < left then printAll format fuel p
      else p

def formatted (format : List Char) (arguments : List (List Char)) : Printed :=
  printAll format (arguments.length + 1) ⟨[], arguments, [], true, none⟩

def Printed.text (p : Printed) : List Char := p.pieces.reverse.flatten

end CodeBlock.Shell
