import CodeBlock.Json.Writer
import CodeBlock.Text.Escaped
import CodeBlock.Text.Utf8

set_option autoImplicit false

/-! # Why a text is not the JSON that was asked for

A failure has a cause and a place. Causes are of two sorts: the text is no JSON, or it is JSON of
another shape than the reader wants. The place is given by the text that was still unread, together
with the number of its bytes that the cause takes in: one for a cause that points at the next
character. It is shown as a line and the number of bytes of that line up to there. -/

namespace CodeBlock.Json

/-- What a reader found in place of what it wanted. -/
inductive Found where
  | null
  | boolean (value : Bool)
  | integer (value : Int)
  | float (value : Binary64.Finite)
  | string (value : String)
  | sequence
  | map

def Found.describe : Found → String
  | null => "null"
  | boolean b => "boolean `" ++ (if b then "true" else "false") ++ "`"
  | integer i => "integer `" ++ String.ofList (integerText i) ++ "`"
  | float x => "floating point `" ++ String.ofList (floatText x) ++ "`"
  | string s => "string " ++ String.ofList (Text.escapedQuote s.toList)
  | sequence => "sequence"
  | map => "map"

/-- Why reading failed. -/
inductive Cause where
  | endInList
  | endInObject
  | endInString
  | endInValue
  | expectedColon
  | expectedListEnd
  | expectedObjectEnd
  | expectedWord
  | expectedValue
  | invalidEscape
  | invalidNumber
  | numberOutOfRange
  | controlCharacter
  | keyNotString
  | loneSurrogate
  | unfinishedSurrogate
  | trailingComma
  | trailingCharacters
  | tooDeep
  | mismatch (found : Found) (expected : String)
  | unknownChoice (name : String) (choices : List String)
  | repeatedField (name : String)
  | noForm (type : String)

/-- A list of choices in words. -/
def choicesText : List String → String
  | [] => "nothing"
  | [a] => "`" ++ a ++ "`"
  | [a, b] => "`" ++ a ++ "` or `" ++ b ++ "`"
  | many => "one of " ++ String.intercalate ", " (many.map fun a => "`" ++ a ++ "`")

/-- The wording of a cause. -/
def Cause.message : Cause → String
  | endInList => "EOF while parsing a list"
  | endInObject => "EOF while parsing an object"
  | endInString => "EOF while parsing a string"
  | endInValue => "EOF while parsing a value"
  | expectedColon => "expected `:`"
  | expectedListEnd => "expected `,` or `]`"
  | expectedObjectEnd => "expected `,` or `\x7d`"
  | expectedWord => "expected ident"
  | expectedValue => "expected value"
  | invalidEscape => "invalid escape"
  | invalidNumber => "invalid number"
  | numberOutOfRange => "number out of range"
  | controlCharacter => "control character (\\u0000-\\u001F) found while parsing a string"
  | keyNotString => "key must be a string"
  | loneSurrogate => "lone leading surrogate in hex escape"
  | unfinishedSurrogate => "unexpected end of hex escape"
  | trailingComma => "trailing comma"
  | trailingCharacters => "trailing characters"
  | tooDeep => "recursion limit exceeded"
  | mismatch found expected => "invalid type: " ++ found.describe ++ ", expected " ++ expected
  | unknownChoice name choices => "unknown variant `" ++ name ++ "`, expected " ++ choicesText choices
  | repeatedField name => "duplicate field `" ++ name ++ "`"
  | noForm type => "data did not match any variant of untagged enum " ++ type

/-- A cause, and where it lies. -/
structure Failure where
  cause : Cause
  /-- The text that was still unread. -/
  rest : List Char
  /-- How many bytes of it the cause takes in. -/
  ahead : Nat

/-- Line and column of a failure in the text that was read. -/
def Failure.position (text : List Char) (failure : Failure) : Nat × Nat :=
  let bytes := Text.toBytes text
  let before := bytes.take (bytes.length - (Text.toBytes failure.rest).length + failure.ahead)
  (1 + before.count 10, (before.reverse.takeWhile (· != 10)).length)

/-- The wording of a failure, with its place. -/
def Failure.message (text : List Char) (failure : Failure) : String :=
  let (line, column) := failure.position text
  failure.cause.message ++ " at line " ++ toString line ++ " column " ++ toString column

/-- A failure at the text that is still unread. -/
def failHere {α : Type} (cause : Cause) (rest : List Char) : Except Failure α :=
  .error ⟨cause, rest, 0⟩

/-- A failure that points at the next character. -/
def failNext {α : Type} (cause : Cause) (rest : List Char) : Except Failure α :=
  .error ⟨cause, rest, 1⟩

end CodeBlock.Json

namespace CodeBlock

/-- A step that succeeds is followed by one that does. -/
theorem exists_of_bind_eq_ok {ε α β : Type} {x : Except ε α} {f : α → Except ε β} {b : β}
    (h : x >>= f = .ok b) : ∃ a, x = .ok a ∧ f a = .ok b := by
  cases x with
  | error _ => cases h
  | ok a => exact ⟨a, rfl, h⟩

end CodeBlock
