import CodeBlock.Text.CaseTable

set_option autoImplicit false

/-! # Small and capital forms

The small form of a text goes character by character, with two exceptions: the dotted capital I
gives two characters, and the capital sigma gives the final small sigma where a word ends. A word
ends there when the nearest character before it that counts is cased and the nearest one after it
is not; characters such as apostrophes and combining marks do not count. -/

namespace CodeBlock.Text

/-- Whether `c` has case: it is a small, capital or title letter, or looks like one. The pharyngeal
    letter has lost its case in version 17 of the standard. -/
def isCased (c : Char) : Bool :=
  (isLowerLetter c && c != 'ʕ') || isUpperLetter c || otherCasedRuns.contains c

/-- Whether the search for a cased neighbour looks through `c`. -/
def isCaseIgnorable (c : Char) : Bool := caseIgnorableRuns.contains c

/-- Whether the first character that counts is cased. -/
def facesCased (s : List Char) : Bool :=
  match s.dropWhile isCaseIgnorable with
  | c :: _ => isCased c
  | [] => false

/-- The small form of a character, out of context. -/
def lowerChar (c : Char) : List Char :=
  if c = 'İ' then ['i', '\u0307'] else [lowerShifts.apply c]

/-- The capital form of a character, which may take several. -/
def upperChar (c : Char) : List Char :=
  match upperExpansions.find? fun entry => entry.1 == c.toNat with
  | some (_, codes) => codes.map Char.ofNat
  | none => [upperShifts.apply c]

/-- The small form of a text that comes after `before`, which is given last character first. -/
def lowerAfter (before : List Char) : List Char → List Char
  | [] => []
  | c :: rest =>
      (if c = 'Σ' then [if facesCased before && !facesCased rest then 'ς' else 'σ']
        else lowerChar c) ++ lowerAfter (c :: before) rest

/-- The small form of a text. -/
def lowerText (s : List Char) : List Char := lowerAfter [] s

end CodeBlock.Text
