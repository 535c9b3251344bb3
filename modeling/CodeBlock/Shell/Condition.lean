import CodeBlock.Shell.Machine

set_option autoImplicit false

/-! # Conditions

A condition is given as a row of words: a text alone, a sign and what it is about, two texts or
numbers with a sign between them, or several of these with signs that join them. -/

namespace CodeBlock.Shell

/-- Why a condition has no answer. -/
inductive ConditionError where
  | notNumber (text : List Char)
  | unexpectedOperator (text : List Char)
  | wordMissing (text : List Char)
  | notClosed
  deriving Repr

def ConditionError.message : ConditionError → List Char
  | notNumber text => "Illegal number: ".toList ++ text
  | unexpectedOperator text =>
      (if text.isEmpty then [] else text ++ [':', ' ']) ++ "unexpected operator".toList
  | wordMissing text => text ++ ": argument expected".toList
  | notClosed => "closing paren expected".toList

/-- The signs that stand before what they are about. -/
def isUnarySign (s : List Char) : Bool :=
  match s with
  | ['-', c] => "bcdefghkLnprsStuwxzGO".toList.contains c
  | _ => false

/-- The signs that stand between two texts or numbers. -/
def binarySigns : List String :=
  ["=", "!=", "<", ">", "-eq", "-ne", "-gt", "-ge", "-lt", "-le", "-nt", "-ot", "-ef"]

/-- Whether a word is a sign that stands between two texts or numbers. -/
def isBinarySign (s : List Char) : Bool := binarySigns.contains (String.ofList s)

/-- Whether what a sign says holds. -/
def holdsUnary (m : Machine) (c : Char) (s : List Char) : Bool :=
  let place := (m.tree.locate (Machine.outside s)).toOption
  let content := place.bind m.files.content?
  let isFolder := (place.map m.files.isDirectory).getD false
  let isNull := s == "/dev/null".toList
  match c with
  | 'z' => s.isEmpty
  | 'n' => !s.isEmpty
  | 'f' => content.isSome && !isFolder && !isNull
  | 'd' => isFolder
  | 's' => (content.map fun bytes => !bytes.isEmpty).getD isFolder
  | 'x' => isFolder || place.any m.isRunnable
  | 'O' => content.isSome || isFolder
  | 'G' => content.isSome || isFolder
  | 'c' => isNull
  | 'e' => isNull || content.isSome || isFolder
  | 'r' => isNull || content.isSome || isFolder
  | 'w' => isNull || content.isSome || isFolder
  | _ => false

/-- Whether blanks may be around a number at a character. -/
def isAroundNumber (c : Char) : Bool := c == ' ' || (decide ('\t' ≤ c) && decide (c ≤ '\r'))

/-- A number in a condition. -/
def conditionNumber (s : List Char) : Except ConditionError Int64 :=
  let t := s.dropWhile isAroundNumber
  let digits := match t with
    | '-' :: rest => rest
    | '+' :: rest => rest
    | t => t
  let digits := (digits.reverse.dropWhile isAroundNumber).reverse
  let n : Int := if t.head? == some '-' then -(ofDigits 10 digits : Int) else ofDigits 10 digits
  if digits.isEmpty || !digits.all Char.isDigit || (clamp n).toInt != n then .error (.notNumber s)
  else .ok (clamp n)

/-- Whether two paths lead to the same place, and something is there. -/
def leadTogether (m : Machine) (a b : List Char) : Bool :=
  let place := fun (s : List Char) =>
    ((m.tree.locate (Machine.outside s)).toOption).filter fun place =>
      m.files.isDirectory place || (m.files.content? place).isSome
  match place a, place b with
  | some a, some b => a == b
  | _, _ => false

/-- Whether what a sign says of two texts holds. -/
def holdsBinary (m : Machine) (a : List Char) (sign : String) (b : List Char) :
    Except ConditionError Bool := do
  match sign with
  | "=" => return a == b
  | "!=" => return a != b
  | "<" => return decide (a < b)
  | ">" => return decide (b < a)
  | "-eq" => return (← conditionNumber a) == (← conditionNumber b)
  | "-ne" => return (← conditionNumber a) != (← conditionNumber b)
  | "-gt" =>
      let x ← conditionNumber a
      return decide ((← conditionNumber b) < x)
  | "-ge" =>
      let x ← conditionNumber a
      return decide ((← conditionNumber b) ≤ x)
  | "-lt" => return decide ((← conditionNumber a) < (← conditionNumber b))
  | "-le" => return decide ((← conditionNumber a) ≤ (← conditionNumber b))
  | "-ef" => return leadTogether m a b
  | _ => return false

/-- What a word means, with the words behind it. -/
inductive ConditionWord where
  | nothing
  | operand
  | unary (sign : Char)
  | binary
  | not
  | and
  | or
  | opening
  | closing
  deriving DecidableEq, Repr

/-- The meaning of the first word. A sign that would stand before something is a text if nothing follows,
    or a sign between two texts. -/
def ConditionWord.of : List (List Char) → ConditionWord
  | [] => nothing
  | word :: rest =>
      if isUnarySign word then
        let isOperand := match rest with
          | [] => true
          | [_] => false
          | next :: _ => isBinarySign next
        if isOperand then operand else unary (word.getLastD ' ')
      else if isBinarySign word then binary
      else match String.ofList word with
        | "!" => not
        | "-a" => and
        | "-o" => or
        | "(" => if rest.isEmpty then operand else opening
        | ")" => closing
        | _ => operand

/-- Whether conditions hold that begin at the first word, and the words from the last one on that was
    used. The fuel bounds the number of words. -/
abbrev ConditionAnswer := Except ConditionError (Bool × List (List Char))

mutual

def anyHolds (m : Machine) : Nat → List (List Char) → ConditionAnswer
  | 0, words => .ok (false, words)
  | fuel + 1, words => do
      let (first, last) ← allHold m fuel words
      match ConditionWord.of (last.drop 1) with
      | .or =>
          let (others, last) ← anyHolds m fuel (last.drop 2)
          return (first || others, last)
      | _ => return (first, last)

def allHold (m : Machine) : Nat → List (List Char) → ConditionAnswer
  | 0, words => .ok (false, words)
  | fuel + 1, words => do
      let (first, last) ← oneHolds m fuel words
      match ConditionWord.of (last.drop 1) with
      | .and =>
          let (others, last) ← allHold m fuel (last.drop 2)
          return (first && others, last)
      | _ => return (first, last)

/-- A condition, or the opposite of one. -/
def oneHolds (m : Machine) : Nat → List (List Char) → ConditionAnswer
  | 0, words => .ok (false, words)
  | fuel + 1, words => do
      match ConditionWord.of words with
      | .not =>
          if (words.drop 1).isEmpty then return (true, words)
          let (b, last) ← oneHolds m fuel (words.drop 1)
          return (!b, last)
      | .nothing => return (false, words)
      | .opening =>
          let inner := words.drop 1
          if ConditionWord.of inner = .closing then return (false, inner)
          let (b, last) ← anyHolds m fuel inner
          if ConditionWord.of (last.drop 1) = .closing then return (b, last.drop 1)
          throw .notClosed
      | .unary sign =>
          match words.drop 1 with
          | [] => throw (.wordMissing (words.headD []))
          | operand :: rest =>
              if sign = 't' then
                let _ ← conditionNumber operand
                return (false, operand :: rest)
              return (holdsUnary m sign operand, operand :: rest)
      | _ =>
          match words with
          | a :: sign :: rest =>
              if ConditionWord.of (sign :: rest) = .binary then
                match rest with
                | [] => throw (.wordMissing sign)
                | b :: others =>
                    return (← holdsBinary m a (String.ofList sign) b, b :: others)
              return (!a.isEmpty, words)
          | words => return (!(words.headD []).isEmpty, words)

end

/-- Whether a condition of all words holds, none of them being left over. -/
def wholeHolds (m : Machine) (words : List (List Char)) : Except ConditionError Bool := do
  let (b, last) ← anyHolds m (3 * words.length + 4) words
  if (last.drop 1).isEmpty then return b
  throw (.unexpectedOperator (last.headD []))

/-- Whether a condition holds. Of three or four words, parentheses around all of them go away, and so does
    the sign for the opposite, which counts only once. -/
def holds (m : Machine) (words : List (List Char)) : Except ConditionError Bool :=
  if words.isEmpty then .ok false else shortened false 3 words
where
  shortened (negated : Bool) : Nat → List (List Char) → Except ConditionError Bool
    | 0, words => (wholeHolds m words).map (· != negated)
    | fuel + 1, words =>
        if words.length = 3 && isBinarySign (words.getD 1 []) then do
          let b ← holdsBinary m (words.getD 0 []) (String.ofList (words.getD 1 [])) (words.getD 2 [])
          return b != negated
        else if words.length = 3 || words.length = 4 then
          if words.head? = some ['('] && words.getLast? = some [')'] then
            (wholeHolds m (words.drop 1).dropLast).map (· != negated)
          else if words.head? = some ['!'] then shortened true fuel (words.drop 1)
          else (wholeHolds m words).map (· != negated)
        else (wholeHolds m words).map (· != negated)

end CodeBlock.Shell
