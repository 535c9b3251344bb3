import CodeBlock.Snippet.Outline

set_option autoImplicit false

/-! # Imports apart from the body

A script may import only at its outermost level, ahead of the declarations that are put in. So the
imports of a snippet are taken out of it, and what is left is its body. The statements that stand
before the last import stay, each on a line of its own; comments before it do not. -/

namespace CodeBlock.Snippet

/-- A snippet taken apart. -/
@[ext]
structure Parts where
  /-- The imports, each on a line of its own. -/
  imports : List Char
  /-- The other statements, and everything after the last import as it was. -/
  body : List Char
  deriving DecidableEq, Repr

/-- The pieces up to the last import, and those after it. Pieces without a text that stand right after
    the import still count as before its end. -/
def atLastImport (pieces : List Piece) : List Piece × List Piece :=
  let before := (pieces.reverse.dropWhile fun piece => !piece.isImport).reverse
  let after := (pieces.reverse.takeWhile fun piece => !piece.isImport).reverse
  if before.isEmpty then ([], after)
  else (before ++ after.takeWhile (·.text.isEmpty), after.dropWhile (·.text.isEmpty))

theorem atLastImport_append (pieces : List Piece) :
    (atLastImport pieces).1 ++ (atLastImport pieces).2 = pieces := by
  have h : (pieces.reverse.dropWhile fun piece => !piece.isImport).reverse ++
      (pieces.reverse.takeWhile fun piece => !piece.isImport).reverse = pieces := by
    rw [← List.reverse_append, List.takeWhile_append_dropWhile, List.reverse_reverse]
  unfold atLastImport
  simp only
  split
  · rename_i hempty
    rw [List.isEmpty_iff.1 hempty, List.nil_append] at h
    simpa using h
  · rw [List.append_assoc, List.takeWhile_append_dropWhile]
    exact h

/-- The two parts of a row of pieces. -/
def partsOf (pieces : List Piece) : Parts :=
  let (upTo, after) := atLastImport pieces
  let stranded := upTo.filter fun piece => !piece.isImport && !piece.isTrivial
  { imports := ['\n'].intercalate ((upTo.filter Piece.isImport).map Piece.text)
    body :=
      if upTo.isEmpty then textOf pieces
      else stranded.flatMap (fun piece => piece.text ++ ['\n']) ++ textOf after }

/-- The two parts of a text, by the nodes that a reader finds in it. -/
def partsBy (read : List Char → List Tree) (s : List Char) : Parts := partsOf (outlineBy read s)

/-- The two parts of a snippet. -/
def parts (s : List Char) : Parts := partsBy topNodes s

end CodeBlock.Snippet
