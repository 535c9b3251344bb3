set_option autoImplicit false

/-! # Commands and words of the shell

A command is made of words and of other commands, and a word is made of segments, some of which hold
commands and words again: what a command prints, what stands in the place of a variable. The shell
knows bytes only: a character here stands for a byte. -/

namespace CodeBlock.Shell

/-- When a word takes the place of a variable, and what else is done. -/
inductive Replacement where
  /-- Where there is no value. -/
  | otherwise
  /-- Where there is no value, and the variable gets it. -/
  | assigning
  /-- Where there is no value, as the reason to stop. -/
  | refusing
  /-- Where there is a value. -/
  | instead
  deriving DecidableEq, Repr

/-- How a file is used. -/
inductive FileUse where
  | read
  | readWrite
  /-- The file is emptied, unless the shell protects its files. -/
  | write
  /-- The file is emptied in any case. -/
  | overwrite
  | append
  deriving DecidableEq, Repr

mutual

/-- A part of a word. -/
inductive Segment where
  /-- A character that stands for itself and may be part of a pattern. -/
  | plain (c : Char)
  /-- A character that stands for itself and nothing else. -/
  | quoted (c : Char)
  /-- Quotes: there is something, even if nothing stands between them. -/
  | quotes
  /-- The home directory of a user, or of the one whose shell it is if there is no name. -/
  | home (user : List Char)
  /-- What a parameter stands for. -/
  | parameter (name : List Char) (adjustment : Adjustment) (isQuoted : Bool)
  /-- What a command prints. -/
  | output (body : Command) (isQuoted : Bool)
  /-- What a calculation gives. -/
  | number (expression : List Segment) (isQuoted : Bool)

/-- What is done with a parameter where its value is used. -/
inductive Adjustment where
  /-- The value as it is. -/
  | plain
  /-- The length of the value. -/
  | length
  /-- A word in the place of the value; `blank` says that an empty value is none. -/
  | replaced (replacement : Replacement) (blank : Bool) (word : List Segment)
  /-- The value without what matches a pattern at its start or its end, as little or as much as can
      be. -/
  | without (atStart longest : Bool) (pattern : List Segment)
  /-- Something that has no meaning, which is an error where it is used. -/
  | senseless

/-- What is done with a descriptor. -/
inductive Channel where
  | file (path : List Segment) (use : FileUse)
  /-- It becomes what another one is, or is closed. -/
  | copy (descriptor : List Segment)
  /-- It reads a text that stands in the command. -/
  | here (text : List Segment)

/-- A command. Where the line counts in which it stands, it is kept. -/
inductive Command where
  /-- Does nothing. -/
  | nothing
  /-- Runs a program or a function; without words it sets variables for good. -/
  | simple (line : Nat) (assignments : List (List Char × List Segment)) (words : List (List Segment))
      (redirections : List (Nat × Channel))
  | redirected (line : Nat) (body : Command) (redirections : List (Nat × Channel))
  /-- Runs the one with its output as the input of the other. -/
  | pipe (source target : Command)
  | negate (body : Command)
  /-- Runs the other only where the one goes well. -/
  | andThen (first second : Command)
  /-- Runs the other only where the one fails. -/
  | orElse (first second : Command)
  /-- Runs the one and then the other. -/
  | inOrder (first second : Command)
  /-- Runs without waiting for the end. -/
  | background (body : Command)
  /-- Runs without changing anything for the commands that follow. -/
  | apart (line : Nat) (body : Command) (redirections : List (Nat × Channel))
  | choice (condition yes no : Command)
  /-- Repeats the body while the condition goes well, or while it fails. -/
  | loop (whileTrue : Bool) (condition body : Command)
  /-- Repeats the body for each of some words, or for each argument. -/
  | forEach (line : Nat) (name : List Char) (words : Option (List (List Segment))) (body : Command)
  /-- Runs the first branch that has a pattern which matches the word. -/
  | select (line : Nat) (word : List Segment) (branches : List (List (List Segment) × Command))
  /-- Gives a command, which starts in the line, a name. -/
  | define (line : Nat) (name : List Char) (body : Command)

end

/-- A word as it is written. -/
abbrev Word := List Segment

/-- A change of what a descriptor is connected to. -/
abbrev Redirection := Nat × Channel

/-- What a name is given. -/
abbrev Assignment := List Char × Word

/-- Why a text cannot be read by the shell. -/
inductive SyntaxError where
  | unterminatedQuote
  | unterminatedBackquote
  | missingParentheses
  | missingBrace
  | badLoopVariable
  | badFunctionName
  | badDescriptor
  /-- A token that does not belong there, and what does if there is only one choice. -/
  | unexpected (token : String) (wanted : Option String)
  deriving DecidableEq, Repr

/-- The wording of an error. -/
def SyntaxError.message (e : SyntaxError) : String := "Syntax error: " ++ match e with
  | unterminatedQuote => "Unterminated quoted string"
  | unterminatedBackquote => "EOF in backquote substitution"
  | missingParentheses => "Missing '))'"
  | missingBrace => "Missing '\x7d'"
  | badLoopVariable => "Bad for loop variable"
  | badFunctionName => "Bad function name"
  | badDescriptor => "Bad fd number"
  | unexpected token none => token ++ " unexpected"
  | unexpected token (some wanted) => token ++ " unexpected (expecting " ++ wanted ++ ")"

end CodeBlock.Shell
