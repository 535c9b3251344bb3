import CodeBlock.Text.Case
import CodeBlock.Text.Split

set_option autoImplicit false

/-! # Camel case

A name is read as a row of words: runs of letters and numbers, cut once more at each **hump**, a
capital letter directly after a small one. In lower camel case the first word is small as a whole
and each later word gets a capital first letter and keeps the rest as it is. -/

namespace CodeBlock.Text

/-- Whether words are made of `c`. -/
def isWordChar (c : Char) : Bool := isLetter c || isNumber c

/-- The name with a space at each hump. Behind a hump the search goes on with the next character, so no
    character is looked at as a part of two humps. -/
def spaceHumps : List Char → List Char
  | [] => []
  | [c] => [c]
  | c :: d :: rest =>
      if isLowerLetter c && isUpperLetter d then c :: ' ' :: d :: spaceHumps rest
      else c :: spaceHumps (d :: rest)

def camelWords (name : List Char) : List (List Char) :=
  ((spaceHumps name).splitOnP fun c => !isWordChar c).filter fun word => !word.isEmpty

/-- A word with its first character as a capital. -/
def capitalized : List Char → List Char
  | [] => []
  | c :: rest => upperChar c ++ rest

def joinCamel : List (List Char) → List Char
  | [] => []
  | first :: later => lowerText first ++ later.flatMap capitalized

def lowerCamel (name : String) : String := String.ofList (joinCamel (camelWords name.toList))

end CodeBlock.Text
