import CodeBlock.Json.Writer
import CodeBlock.Text.Split
import CodeBlock.Value.Shape

set_option autoImplicit false

/-! # Values as literals of a script

A value is written on one line, as an expression of the script's language. Strings are written as in
JSON; numbers never with a power of ten; bare words as they are. A label that reads as an
identifier stands bare, and any other one as a string. No literal holds a line end: the script is
taken apart statement by statement, and a line end inside a word would cut one in two. -/

namespace CodeBlock

namespace Scalar

/-- Numbers in plain notation, whatever their size, and whole ones without a point. -/
def numberStyle : NumberStyle := ⟨.up, false, none⟩

def numberText : Binary64 → List Char
  | .nan => ['N', 'a', 'N']
  | .infinite negative => (if negative then ['-'] else []) ++ "Infinity".toList
  | .finite x => numberStyle.write (x.shortest numberStyle.tie)

/-- The text of a leaf before line ends are taken care of. -/
def plainText : Scalar → List Char
  | .str s => Json.quoted s.toList
  | .int i => Json.integerText i.toInt
  | .float x => numberText x
  | .bool true => ['t', 'r', 'u', 'e']
  | .bool false => ['f', 'a', 'l', 's', 'e']
  | .atom word => word.toList

/-- The text of a leaf, on one line. -/
def literalText (s : Scalar) : List Char := Text.replaceChar '\n' ['\\', 'n'] s.plainText

def literal (s : Scalar) : String := String.ofList s.literalText

end Scalar

/-- Whether a label may start with `c` and stand bare. -/
def isLabelStart (c : Char) : Bool := Text.isLetter c || c == '_' || c == '$'

/-- Whether `c` may stand inside a bare label. -/
def isLabelChar (c : Char) : Bool := isLabelStart c || Text.isNumber c

/-- Whether a label reads as an identifier. -/
def isBareLabel : List Char → Bool
  | [] => false
  | c :: rest => isLabelStart c && rest.all isLabelChar

/-- A label before its colon. -/
def labelText (label : List Char) : List Char :=
  if isBareLabel label then label else (Scalar.str (String.ofList label)).literalText

namespace Value

mutual

/-- The text of a value, on one line. -/
def literalText : Value → List Char
  | .scalar leaf => leaf.literalText
  | .sequence items => '[' :: itemsText true items ++ [']']
  | .record [] => ['{', '}']
  | .record (field :: fields) => '{' :: ' ' :: fieldsText true (field :: fields) ++ [' ', '}']

/-- The elements of a sequence, with separators between them; `first` says that none came before. -/
def itemsText (first : Bool) : List Value → List Char
  | [] => []
  | item :: items =>
      (if first then [] else [',', ' ']) ++ item.literalText ++ itemsText false items

/-- The fields of a record, with separators between them. -/
def fieldsText (first : Bool) : List (String × Value) → List Char
  | [] => []
  | (label, value) :: fields =>
      (if first then [] else [',', ' ']) ++ labelText label.toList ++ ':' :: ' ' ::
        value.literalText ++ fieldsText false fields

end

def literal (v : Value) : String := String.ofList v.literalText

/-- The literal of a value whose form is decided by field names. -/
def render (v : Value) (names : List String) (asRecord : Bool) : String :=
  (v.shaped names asRecord).literal

end Value

end CodeBlock
