import CodeBlock.Regex.Reader
import CodeBlock.Shell.Tool.Basic

set_option autoImplicit false

/-! # Terms of arguments

A tool that takes each of its arguments as a part of a term and prints the value of the term: sums and
products of whole numbers, comparisons, choices, and parts of texts. -/

namespace CodeBlock.Shell.Term

/-- Why arguments are no term, or one without a value. -/
inductive Failure where
  | missingAfter (word : List Char)
  | unexpected (word : List Char)
  | unclosed (word : List Char)
  | notWhole
  | divisionByZero
  | pattern (why : Regex.Failure)
  | missingOperand

/-- The wording of a failure. -/
def Failure.message : Failure → List Char
  | missingAfter word => "syntax error: missing argument after ".toList ++ quoted word
  | unexpected [')'] => "syntax error: unexpected ')'".toList
  | unexpected word => "syntax error: unexpected argument ".toList ++ quoted word
  | unclosed word => "syntax error: expecting ')' after ".toList ++ quoted word
  | notWhole => "non-integer argument".toList
  | divisionByZero => "division by zero".toList
  | pattern .unclosedSet => "Invalid regular expression".toList
  | pattern why => why.message.toList
  | missingOperand => "missing operand".toList

/-- A value, the last word of it, and the words behind it. -/
abbrev Read := Except Failure (List Char × List Char × List (List Char))

/-- The whole number that a value is. -/
def whole? : List Char → Option Int
  | '-' :: digits => (countOf? digits).map fun n => -(n : Int)
  | digits => (countOf? digits).map Int.ofNat

/-- The text of a whole number. -/
def ofInt (n : Int) : List Char := (toString n).toList

/-- Whether a value counts as nothing: it is empty or zero. -/
def isNothing (s : List Char) : Bool :=
  s.isEmpty ||
    let digits := if s.head? = some '-' then s.drop 1 else s
    !digits.isEmpty && digits.all (· == '0')

/-- What a text has of a pattern at its start: the group if there is one, or else the length. -/
def matched (s written : List Char) : Except Failure (List Char) :=
  match Regex.ofText Regex.Style.basicPicking written with
  | .error why => .error (.pattern why)
  | .ok r =>
      match r.longest? (.atStart s) with
      | none => .ok (if r.groupCount = 0 then ['0'] else [])
      | some stop => .ok (if r.groupCount = 0 then decimal stop.offset else (stop.group? 1).getD [])

/-- The value of two whole numbers. -/
def calculate (operator a b : List Char) : Except Failure (List Char) :=
  match whole? a, whole? b with
  | some m, some n =>
      match operator with
      | ['+'] => .ok (ofInt (m + n))
      | ['-'] => .ok (ofInt (m - n))
      | ['*'] => .ok (ofInt (m * n))
      | ['/'] => if n = 0 then .error .divisionByZero else .ok (ofInt (Int.tdiv m n))
      | _ => if n = 0 then .error .divisionByZero else .ok (ofInt (Int.tmod m n))
  | _, _ => .error .notWhole

/-- The value of a comparison. -/
def compareValues (operator a b : List Char) : List Char :=
  let order : Ordering := match whole? a, whole? b with
    | some m, some n => compare m n
    | _, _ => compare a b
  let holds : Bool := match String.ofList operator with
    | "<" => order == .lt
    | "<=" => order != .gt
    | "=" => order == .eq
    | "==" => order == .eq
    | "!=" => order != .eq
    | ">=" => order != .lt
    | _ => order == .gt
  if holds then ['1'] else ['0']

/-- The operators between two values, with the level at which they bind. -/
def level? (word : List Char) : Option Nat :=
  match String.ofList word with
  | "|" => some 0
  | "&" => some 1
  | "<" => some 2
  | "<=" => some 2
  | "=" => some 2
  | "==" => some 2
  | "!=" => some 2
  | ">=" => some 2
  | ">" => some 2
  | "+" => some 3
  | "-" => some 3
  | "*" => some 4
  | "/" => some 4
  | "%" => some 4
  | ":" => some 5
  | _ => none

/-- The value of two values with an operator between them; `counts` says whether the value is asked
    for. -/
def combine (counts : Bool) (operator a b : List Char) : Except Failure (List Char) :=
  if !counts then .ok []
  else
    match operator with
    | ['|'] => .ok (if !isNothing a then a else if isNothing b then ['0'] else b)
    | ['&'] => .ok (if isNothing a || isNothing b then ['0'] else a)
    | [':'] => matched a b
    | operator =>
        if level? operator = some 2 then .ok (compareValues operator a b)
        else calculate operator a b

mutual

/-- Reads a value that operators of a level or a higher one join. -/
def readLevel : Nat → Nat → Bool → List Char → List (List Char) → Read
  | 0, _, _, before, _ => .error (.missingAfter before)
  | fuel + 1, level, counts, before, words =>
      if 6 ≤ level then readPrimary fuel counts before words
      else do
        let (a, last, rest) ← readLevel fuel (level + 1) counts before words
        goOn fuel level counts a last rest

/-- Reads the operators of a level behind a value, with the values behind them. -/
def goOn : Nat → Nat → Bool → List Char → List Char → List (List Char) → Read
  | 0, _, _, a, last, rest => .ok (a, last, rest)
  | fuel + 1, level, counts, a, last, rest =>
      match rest with
      | word :: more =>
          if level? word = some level then do
            let needed := counts && !(level = 0 && !isNothing a) && !(level = 1 && isNothing a)
            let (b, last, rest) ← readLevel fuel (level + 1) needed word more
            let value ← if needed || !counts then combine counts word a b
              else .ok (if level = 0 then a else ['0'])
            goOn fuel level counts value last rest
          else .ok (a, last, rest)
      | [] => .ok (a, last, [])

/-- Reads a single value. -/
def readPrimary : Nat → Bool → List Char → List (List Char) → Read
  | 0, _, before, _ => .error (.missingAfter before)
  | fuel + 1, counts, before, words =>
      match words with
      | [] => if before.isEmpty then .error .missingOperand else .error (.missingAfter before)
      | word :: rest =>
          match String.ofList word, rest with
          | "(", rest => do
              let (value, last, rest) ← readLevel fuel 0 counts word rest
              match rest with
              | [')'] :: rest => .ok (value, [')'], rest)
              | [] => .error (.unclosed last)
              | other :: _ => .error (.unexpected other)
          | ")", _ => .error (.unexpected word)
          | "+", next :: rest => .ok (next, next, rest)
          | "+", [] => .error (.missingAfter word)
          | "length", rest => do
              let (s, last, rest) ← readPrimary fuel counts word rest
              .ok (decimal s.length, last, rest)
          | "match", rest => do
              let (s, last, rest) ← readPrimary fuel counts word rest
              let (p, last, rest) ← readPrimary fuel counts last rest
              let value ← if counts then matched s p else .ok []
              .ok (value, last, rest)
          | "index", rest => do
              let (s, last, rest) ← readPrimary fuel counts word rest
              let (set, last, rest) ← readPrimary fuel counts last rest
              let place := match s.findIdx? set.contains with
                | some i => i + 1
                | none => 0
              .ok (decimal place, last, rest)
          | "substr", rest => do
              let (s, last, rest) ← readPrimary fuel counts word rest
              let (start, last, rest) ← readPrimary fuel counts last rest
              let (count, last, rest) ← readPrimary fuel counts last rest
              let value := match whole? start, whole? count with
                | some i, some n =>
                    if i ≤ 0 ∨ n ≤ 0 then [] else (s.drop (i.toNat - 1)).take n.toNat
                | _, _ => []
              .ok (value, last, rest)
          | _, rest => .ok (word, word, rest)

end

/-- The value of a term. -/
def valueOf (words : List (List Char)) : Except Failure (List Char) := do
  let (value, _, rest) ← readLevel (20 * words.length + 20) 0 true [] words
  match rest with
  | [] => .ok value
  | word :: _ => .error (.unexpected word)

def tool (call : ToolCall) : ToolAnswer :=
  let words := match call.arguments with
    | ['-', '-'] :: words => words
    | words => words
  match valueOf words with
  | .ok value => ⟨value ++ ['\n'], [], if isNothing value then 1 else 0, false⟩
  | .error .missingOperand => .advising "expr" 2 "missing operand".toList
  | .error why => .complaining "expr" 2 why.message

end CodeBlock.Shell.Term
