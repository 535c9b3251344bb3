import CodeBlock.Number.Power
import CodeBlock.Shell.Word

set_option autoImplicit false

/-! # Calculations of the shell

A calculation is done with whole numbers of 64 bits. It may use variables, whose texts are read as
numbers and of which those not set count as zero, and it may set them. -/

namespace CodeBlock.Shell

/-- The operations on two numbers, with their signs; those that bind more tightly have a higher
    level. -/
inductive Operation where
  | or | and | bitOr | bitXor | bitAnd
  | equal | unequal | less | lessEqual | greater | greaterEqual
  | shiftLeft | shiftRight | add | subtract | multiply | divide | remainder
  deriving DecidableEq, Repr

/-- The signs of the operations and their levels, longer signs first. -/
def operations : List (String × Operation × Nat) :=
  [("||", .or, 1), ("&&", .and, 2), ("==", .equal, 6), ("!=", .unequal, 6), ("<<", .shiftLeft, 8),
    (">>", .shiftRight, 8), ("<=", .lessEqual, 7), (">=", .greaterEqual, 7), ("|", .bitOr, 3),
    ("^", .bitXor, 4), ("&", .bitAnd, 5), ("<", .less, 7), (">", .greater, 7), ("+", .add, 9),
    ("-", .subtract, 9), ("*", .multiply, 10), ("/", .divide, 10), ("%", .remainder, 10)]

/-- A calculation. -/
inductive Calculation where
  | number (n : Int64)
  | variable (name : List Char)
  | negative (a : Calculation)
  | complement (a : Calculation)
  | not (a : Calculation)
  | operate (operation : Operation) (a b : Calculation)
  | choose (condition yes no : Calculation)
  /-- Sets a variable to a number, or to what an operation makes of its old value and the number. -/
  | assign (name : List Char) (operation : Option Operation) (value : Calculation)
  deriving Repr

/-- Why a calculation gives nothing. -/
inductive CalculationError where
  | operandWanted
  | endWanted
  | colonWanted
  | bracketWanted
  | divisionByZero
  | notNumber (text : List Char)
  deriving Repr

def CalculationError.message (expression : List Char) : CalculationError → List Char
  | operandWanted => about "expecting primary"
  | endWanted => about "expecting EOF"
  | colonWanted => about "expecting ':'"
  | bracketWanted => about "expecting ')'"
  | divisionByZero => about "division by zero"
  | notNumber text => "Illegal number: ".toList ++ text
where
  about (what : String) : List Char :=
    ("arithmetic expression: " ++ what ++ ": \"").toList ++ expression ++ ['"']

/-! ## Reading -/

/-- The value of a digit, also of one beyond nine. -/
def digitValue (c : Char) : Nat :=
  if c.isDigit then c.toNat - '0'.toNat
  else if c.isUpper then c.toNat - 'A'.toNat + 10
  else if c.isLower then c.toNat - 'a'.toNat + 10
  else 99

def ofDigits (base : Nat) (digits : List Char) : Nat :=
  digits.foldl (fun n c => base * n + digitValue c) 0

/-- The whole number that a text starts with, and what follows it: with a base of 16 after `0x`, and
    of 8 after `0`. -/
def spanNumber (s : List Char) : Nat × List Char :=
  let (base, digits) := match s with
    | '0' :: 'x' :: rest => (16, rest)
    | '0' :: 'X' :: rest => (16, rest)
    | '0' :: rest => (8, '0' :: rest)
    | s => (10, s)
  let (digits, rest) := digits.span fun c => digitValue c < base
  (ofDigits base digits, rest)

/-- A number as 64 bits hold it; the nearest one where they do not. -/
def clamp (n : Int) : Int64 :=
  if n < -(2 ^ 63) then Int64.minValue else if 2 ^ 63 ≤ n then Int64.maxValue else Int64.ofInt n

/-- The text without blanks at its start. -/
def skipBlanks (s : List Char) : List Char := s.dropWhile fun c => c == ' ' || c == '\t' || c == '\n'

/-- The operation whose sign a text starts with, its level, and what follows. -/
def operationAt? (s : List Char) : Option (Operation × Nat × List Char) :=
  (operations.find? fun (sign, _) => sign.toList.isPrefixOf s).map fun (sign, operation, level) =>
    (operation, level, s.drop sign.length)

/-- What follows the sign of an assignment, with the operation it goes with. -/
def assignmentAt? (s : List Char) : Option (Option Operation × List Char) :=
  match s with
  | '=' :: '=' :: _ => none
  | '=' :: rest => some (none, rest)
  | _ =>
      match operationAt? s with
      | some (operation, level, '=' :: rest) =>
          if level = 6 ∨ level = 7 ∨ level ≤ 2 then none else some (some operation, rest)
      | _ => none

mutual

/-- Reads one operand. -/
def readOperand : Nat → List Char → Except CalculationError (Calculation × List Char)
  | 0, _ => .error .operandWanted
  | fuel + 1, s => do
      match skipBlanks s with
      | '(' :: rest =>
          let (a, rest) ← readChoice fuel rest
          match skipBlanks rest with
          | ')' :: rest => return (a, rest)
          | _ => .error .bracketWanted
      | '-' :: rest =>
          let (a, rest) ← readOperand fuel rest
          return (.negative a, rest)
      | '+' :: rest => readOperand fuel rest
      | '!' :: rest =>
          let (a, rest) ← readOperand fuel rest
          return (.not a, rest)
      | '~' :: rest =>
          let (a, rest) ← readOperand fuel rest
          return (.complement a, rest)
      | c :: rest =>
          if c.isDigit then
            let (n, rest) := spanNumber (c :: rest)
            return (.number (clamp n), rest)
          else if isNameStart c then
            let (name, rest) := (c :: rest).span isNameChar
            match assignmentAt? (skipBlanks rest) with
            | some (operation, rest) =>
                let (value, rest) ← readChoice fuel rest
                return (.assign name operation value, rest)
            | none => return (.variable name, rest)
          else .error .operandWanted
      | [] => .error .operandWanted

/-- Reads the operations that follow an operand, as long as they bind at least as tightly as the
    level. -/
def readOperations (level : Nat) : Nat → Calculation → List Char →
    Except CalculationError (Calculation × List Char)
  | 0, _, _ => .error .operandWanted
  | fuel + 1, a, s => do
      let s := skipBlanks s
      match operationAt? s with
      | some (operation, own, rest) =>
          if own < level then return (a, s)
          else
            let (b, rest) ← readOperand fuel rest
            let (b, rest) ← readOperations (own + 1) fuel b rest
            readOperations level fuel (.operate operation a b) rest
      | none => return (a, s)

/-- Reads a choice, or a calculation without one. -/
def readChoice : Nat → List Char → Except CalculationError (Calculation × List Char)
  | 0, _ => .error .operandWanted
  | fuel + 1, s => do
      let (a, rest) ← readOperand fuel s
      let (a, rest) ← readOperations 1 fuel a rest
      match skipBlanks rest with
      | '?' :: rest =>
          let (yes, rest) ← readChoice fuel rest
          match skipBlanks rest with
          | ':' :: rest =>
              let (no, rest) ← readChoice fuel rest
              return (.choose a yes no, rest)
          | _ => .error .colonWanted
      | rest => return (a, rest)

end

def Calculation.ofText (s : List Char) : Except CalculationError Calculation :=
  match readChoice (4 * s.length + 8) s with
  | .ok (a, rest) => if (skipBlanks rest).isEmpty then .ok a else .error .endWanted
  | .error e => .error e

/-! ## Carrying out -/

/-- The number that says whether something holds. -/
def ofBool (b : Bool) : Int64 := if b then 1 else 0

/-- What an operation makes of two numbers. -/
def Operation.apply (a b : Int64) : Operation → Except CalculationError Int64
  | or => .ok (ofBool (a != 0 || b != 0))
  | and => .ok (ofBool (a != 0 && b != 0))
  | bitOr => .ok (a ||| b)
  | bitXor => .ok (a ^^^ b)
  | bitAnd => .ok (a &&& b)
  | equal => .ok (ofBool (a == b))
  | unequal => .ok (ofBool (a != b))
  | less => .ok (ofBool (decide (a < b)))
  | lessEqual => .ok (ofBool (decide (a ≤ b)))
  | greater => .ok (ofBool (decide (b < a)))
  | greaterEqual => .ok (ofBool (decide (b ≤ a)))
  | shiftLeft => .ok (a <<< b)
  | shiftRight => .ok (a >>> b)
  | add => .ok (a + b)
  | subtract => .ok (a - b)
  | multiply => .ok (a * b)
  | divide => if b = 0 then .error .divisionByZero else .ok (a / b)
  | remainder => if b = 0 then .error .divisionByZero else .ok (a % b)

/-- The number that a text denotes, with a sign and between blanks. -/
def numberOf? (s : List Char) : Option Int64 :=
  let s := skipBlanks s
  let (negative, digits) := match s with
    | '-' :: rest => (true, rest)
    | '+' :: rest => (false, rest)
    | s => (false, s)
  match digits with
  | c :: _ =>
      if c.isDigit then
        let (n, rest) := spanNumber digits
        if (skipBlanks rest).isEmpty then some (clamp (if negative then -(n : Int) else n)) else none
      else none
  | [] => none

/-- The texts of variables. -/
abbrev Variables := List (String × List Char)

def numberOfVariable (vars : Variables) (name : List Char) : Except CalculationError Int64 :=
  match vars.lookup (String.ofList name) with
  | none => .ok 0
  | some text =>
      if (skipBlanks text).isEmpty then .ok 0
      else
        match numberOf? text with
        | some n => .ok n
        | none => .error (.notNumber text)

/-- The result of a calculation, and the variables that it sets, the last one first. -/
def Calculation.evaluate (vars : Variables) :
    Calculation → Variables → Except CalculationError (Int64 × Variables)
  | .number n, set => .ok (n, set)
  | .variable name, set => do return (← numberOfVariable (set ++ vars) name, set)
  | .negative a, set => do
      let (x, set) ← a.evaluate vars set
      return (-x, set)
  | .complement a, set => do
      let (x, set) ← a.evaluate vars set
      return (~~~x, set)
  | .not a, set => do
      let (x, set) ← a.evaluate vars set
      return (ofBool (x == 0), set)
  | .operate operation a b, set => do
      let (x, set) ← a.evaluate vars set
      if operation = .and ∧ x = 0 then return (0, set)
      else if operation = .or ∧ x ≠ 0 then return (1, set)
      else
        let (y, set) ← b.evaluate vars set
        return (← operation.apply x y, set)
  | .choose condition yes no, set => do
      let (x, set) ← condition.evaluate vars set
      if x ≠ 0 then yes.evaluate vars set else no.evaluate vars set
  | .assign name operation value, set => do
      let old ← match operation with
        | some _ => numberOfVariable (set ++ vars) name
        | none => pure 0
      let (y, set) ← value.evaluate vars set
      let x ← match operation with
        | some operation => operation.apply old y
        | none => pure y
      return (x, (String.ofList name, (toString x.toInt).toList) :: set)

/-- The result of the calculation that a text is, and the variables that it sets, the last one
    first. -/
def calculate (vars : Variables) (s : List Char) :
    Except CalculationError (Int64 × Variables) := do
  let a ← Calculation.ofText s
  a.evaluate vars []

end CodeBlock.Shell
