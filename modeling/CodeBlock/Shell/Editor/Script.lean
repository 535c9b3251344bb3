import CodeBlock.Regex.Reader

set_option autoImplicit false

/-! # Scripts of the line editor

The line editor takes the lines of a text one after the other and runs a script over each. A script is
a row of commands; each says for which lines it is meant, and blocks of commands are marked by where they
begin and end. -/

namespace CodeBlock.Shell.Editor

/-! ## Which lines -/

/-- Which single lines are meant. -/
inductive Address where
  | line (number : Nat)
  /-- The line of a number, and from there on every one that is so many further. -/
  | every (first step : Nat)
  | last
  /-- Lines in which a part fits; without an expression, the one that was used last. -/
  | fits (pattern : Option Regex)
  deriving Repr

/-- Where a range of lines ends. -/
inductive RangeEnd where
  | address (a : Address)
  /-- After so many more lines. -/
  | further (lines : Nat)
  /-- At the next number that is a multiple. -/
  | multiple (unit : Nat)
  deriving Repr

/-- For which lines a command is meant. -/
inductive Selection where
  | all
  | one (a : Address)
  | range (first : Address) (last : RangeEnd)
  /-- All lines up to the first in which a part fits. -/
  | upTo (pattern : Option Regex)
  deriving Repr

/-! ## Replacing -/

/-- How letters are changed in what is put in. -/
inductive LetterChange where
  | toUpper
  | toLower
  | stop
  /-- Changes the next letter alone. -/
  | nextToUpper
  | nextToLower
  deriving DecidableEq, Repr

/-- A part of what is put in for a part that fits. -/
inductive ReplacementPart where
  | text (s : List Char)
  /-- What a group holds; the whole part has the number 0. -/
  | group (number : Nat)
  | change (letters : LetterChange)
  deriving Repr

/-- What is replaced by what. -/
structure Replacement where
  pattern : Option Regex
  parts : List ReplacementPart
  /-- Which part that fits is the first to be replaced. -/
  first : Nat
  /-- Whether the later ones are replaced, too. -/
  all : Bool
  /-- Whether a changed line is printed at once. -/
  isPrinted : Bool
  /-- The file to which a changed line is written. -/
  file : Option (List Char)
  deriving Repr

/-! ## Commands -/

/-- When a branch is taken. -/
inductive BranchCondition where
  | always
  | ifReplaced
  | unlessReplaced
  deriving DecidableEq, Repr

/-- What a command does. -/
inductive Action where
  | enter
  | leave
  | mark (label : List Char)
  | branch (condition : BranchCondition) (label : List Char)
  | append (text : List Char)
  | insert (text : List Char)
  | change (text : List Char)
  | delete
  | deleteFirst
  | printNumber
  | printName
  | take
  | takeMore
  | hold
  | holdMore
  | exchange
  | list (width : Option Nat)
  | next
  | nextMore
  | print
  | printFirst
  | quit (status : Nat)
  | quitSilently (status : Nat)
  | readFile (name : List Char)
  | readLine (name : List Char)
  | writeFile (name : List Char)
  | writeFirst (name : List Char)
  | replace (r : Replacement)
  | exchangeLetters (pairs : List (Char × Char))
  | clear
  | nothing
  deriving Repr

/-- A command with its place in the script. -/
structure Instruction where
  number : Nat
  selection : Selection
  negated : Bool
  action : Action
  deriving Repr

/-- A script, and whether its first line asks for silence. -/
structure Script where
  instructions : List Instruction
  isSilent : Bool
  deriving Repr

/-! ## What is wrong with a script -/

/-- Why a text is no script. -/
inductive Cause where
  | unknownCommand (c : Char)
  | missingCommand
  | extraCharacters
  | unclosedBlock
  | unopenedBlock
  | blockEndWithAddress
  | labelWithAddress
  | commentWithAddress
  | severalAddresses
  | unexpectedComma
  | countAsFirstAddress
  | zeroLine
  | severalNegations
  | unendingAddress
  | unendingReplacement
  | unendingExchange
  | differentLengths
  | unknownFlag
  | severalPrintFlags
  | severalGlobalFlags
  | severalNumbers
  | zeroNumber
  | unknownReference (number : Nat)
  | missingFile
  | missingText
  | missingLabel
  | badPattern (why : Regex.Failure)
  deriving Repr

/-- The wording of a cause. -/
def Cause.message : Cause → String
  | unknownCommand c => "unknown command: `" ++ String.singleton c ++ "'"
  | missingCommand => "missing command"
  | extraCharacters => "extra characters after command"
  | unclosedBlock => "unmatched `\x7b'"
  | unopenedBlock => "unexpected `\x7d'"
  | blockEndWithAddress => "`\x7d' doesn't want any addresses"
  | labelWithAddress => ": doesn't want any addresses"
  | commentWithAddress => "comments don't accept any addresses"
  | severalAddresses => "command only uses one address"
  | unexpectedComma => "unexpected `,'"
  | countAsFirstAddress => "invalid usage of +N or ~N as first address"
  | zeroLine => "invalid usage of line address 0"
  | severalNegations => "multiple `!'s"
  | unendingAddress => "unterminated address regex"
  | unendingReplacement => "unterminated `s' command"
  | unendingExchange => "unterminated `y' command"
  | differentLengths => "strings for `y' command are different lengths"
  | unknownFlag => "unknown option to `s'"
  | severalPrintFlags => "multiple `p' options to `s' command"
  | severalGlobalFlags => "multiple `g' options to `s' command"
  | severalNumbers => "multiple number options to `s' command"
  | zeroNumber => "number option to `s' command may not be zero"
  | unknownReference number =>
      "invalid reference \\" ++ toString number ++ " on `s' command's RHS"
  | missingFile => "missing filename in r/R/w/W commands"
  | missingText => "expected \\ after `a', `c' or `i'"
  | missingLabel => "\":\" lacks a label"
  | badPattern why => why.message

end CodeBlock.Shell.Editor
