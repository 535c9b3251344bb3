import CodeBlock.Number.Binary64
import CodeBlock.Regex.Reader

set_option autoImplicit false

/-! # Scripts over records

A script goes through the records of texts: it has rules, each with a pattern that says for which records
the statements of the rule are run, and functions. Expressions have texts and numbers as their values,
and tables can be looked up by them. -/

namespace CodeBlock.Shell.Records

inductive Arithmetic where
  | add
  | sub
  | mul
  | div
  | rem
  | pow
  deriving DecidableEq, Repr

inductive Comparison where
  | less
  | lessEqual
  | equal
  | notEqual
  | greater
  | greaterEqual
  deriving DecidableEq, Repr

/-- The functions that there are without a script. -/
inductive Function where
  | length
  | substr
  | index
  | split
  | sub
  | gsub
  | fit
  | sprintf
  | sin
  | cos
  | atan2
  | exp
  | log
  | sqrt
  | int
  | rand
  | srand
  | toLower
  | toUpper
  | system
  | close
  | flush
  deriving DecidableEq, Repr

/-- Expressions. -/
inductive Expr where
  | number (x : Binary64)
  | text (s : List Char)
  /-- Whether the expression fits the record; as an operand that is to be fitted, the expression. -/
  | pattern (r : Regex)
  | named (name : String)
  | field (index : Expr)
  | element (table : String) (key : List Expr)
  | assign (target value : Expr)
  | update (operator : Arithmetic) (target value : Expr)
  /-- One more or less, with the value from before or after. -/
  | count (up before : Bool) (target : Expr)
  | choose (condition yes no : Expr)
  | or (a b : Expr)
  | and (a b : Expr)
  | not (a : Expr)
  | minus (a : Expr)
  | plus (a : Expr)
  | arithmetic (operator : Arithmetic) (a b : Expr)
  | compare (operator : Comparison) (a b : Expr)
  | join (a b : Expr)
  | fits (negated : Bool) (a pattern : Expr)
  | isKey (key : List Expr) (table : String)
  | call (name : String) (arguments : List Expr)
  | apply (f : Function) (arguments : List Expr)
  /-- Reads the next record. -/
  | readRecord (target : Option Expr)
  | readFile (target : Option Expr) (file : Expr)
  | readCommand (target : Option Expr) (command : Expr)
  | grouped (inner : Expr)

instance : Inhabited Expr := ⟨.text []⟩

/-- Where something is printed that is not printed to the output. -/
inductive Target where
  | file (name : Expr)
  /-- The end of a file. -/
  | fileEnd (name : Expr)
  | command (text : Expr)

/-- Statements. -/
inductive Statement where
  | evaluate (e : Expr)
  | print (values : List Expr) (target : Option Target)
  | printf (values : List Expr) (target : Option Target)
  | branch (condition : Expr) (yes no : List Statement)
  | loop (condition : Expr) (body : List Statement)
  /-- A loop that looks at its condition after each round. -/
  | loopAfter (body : List Statement) (condition : Expr)
  | loopFor (start : List Statement) (condition : Option Expr) (step : List Statement)
      (body : List Statement)
  /-- A loop over the keys of a table. -/
  | each (name table : String) (body : List Statement)
  | next
  | nextFile
  | exit (status : Option Expr)
  | giveBack (value : Option Expr)
  | leave
  | again
  | delete (table : String) (key : Option (List Expr))
  | block (body : List Statement)

/-- For which records a rule is meant. -/
inductive Condition where
  | atStart
  | atEnd
  | always
  | holds (e : Expr)
  | between (first last : Expr)

/-- A rule; without statements, the record is printed. -/
structure Rule where
  number : Nat
  condition : Condition
  body : Option (List Statement)

/-- A function of a script. -/
structure Definition where
  parameters : List String
  body : List Statement

/-- A script. -/
structure Script where
  rules : List Rule
  definitions : List (String × Definition)

/-- What is wrong with a script: the line, and a message. -/
structure Fault where
  line : Nat
  message : List Char
  /-- Whether the number of the line stands alone. -/
  isTerse : Bool

/-- Whether a value can be stored under an expression. -/
def Expr.isTarget : Expr → Bool
  | named _ => true
  | field _ => true
  | element _ _ => true
  | _ => false

end CodeBlock.Shell.Records
