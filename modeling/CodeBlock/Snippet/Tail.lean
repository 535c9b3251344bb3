import CodeBlock.Snippet.Outline

set_option autoImplicit false

/-! # Giving back the last expression

A body that is run for its value becomes the body of a function. If its last statement is an
expression, that expression is what the function gives back; any other body stays as it is, and gives
back what it says itself. -/

namespace CodeBlock.Snippet

/-- The pieces before the last one that is not trivial, that piece, and those after it. -/
def lastStatement? (pieces : List Piece) : Option (List Piece × Piece × List Piece) :=
  let after := (pieces.reverse.takeWhile Piece.isTrivial).reverse
  match (pieces.reverse.dropWhile Piece.isTrivial) with
  | [] => none
  | last :: before => some (before.reverse, last, after)

/-- What a statement holds after its expression, without the semicolon if that comes first. -/
def withoutSemicolon (rest : List Char) : List Char :=
  match Text.trimStart rest with
  | ';' :: more => more
  | _ => rest

/-- The text of some pieces, in which the expression that comes last is given back. -/
def returningText (pieces : List Piece) : List Char :=
  match lastStatement? pieces with
  | some (before, .expression code rest, after) =>
      textOf before ++ "return (".toList ++ code ++ ");".toList ++ withoutSemicolon rest ++ textOf after
  | _ => textOf pieces

/-- The body in which the expression that comes last is given back, by the nodes that a reader finds. -/
def returningBy (read : List Char → List Tree) (body : List Char) : List Char :=
  returningText (outlineBy read body)

/-- The body in which the expression that comes last is given back. -/
def returning (body : List Char) : List Char := returningBy topNodes body

end CodeBlock.Snippet
