import CodeBlock.Snippet.Parser

set_option autoImplicit false

/-! # The outline of a snippet

At its outermost level a snippet is a row of pieces: comments, statements, of which imports and
expressions are told apart from the others, and gaps between them, which hold blanks and what belongs
to no statement. Nothing is lost: the texts of the pieces, one after the other, are the snippet
(`textOf_outlineBy`). -/

namespace CodeBlock.Snippet

/-- A piece of a snippet. -/
inductive Piece where
  | gap (text : List Char)
  | comment (text : List Char)
  /-- The line at the very start that says what runs the snippet as a file. -/
  | launcher (text : List Char)
  | importing (text : List Char)
  /-- A statement that is an expression, and what the statement holds after it. -/
  | expression (code rest : List Char)
  /-- A statement of another kind, or one that breaks the rules. -/
  | other (text : List Char)
  deriving DecidableEq, Repr

namespace Piece

/-- The text of a piece. -/
def text : Piece → List Char
  | gap s => s
  | comment s => s
  | launcher s => s
  | importing s => s
  | expression code rest => code ++ rest
  | other s => s

/-- Whether a piece does nothing when the snippet is run. -/
def isTrivial : Piece → Bool
  | gap _ => true
  | comment _ => true
  | launcher _ => true
  | _ => false

def isImport : Piece → Bool
  | importing _ => true
  | _ => false

theorem text_gap (s : List Char) : (gap s).text = s := rfl

end Piece

/-- The texts of some pieces, one after the other. -/
def textOf (pieces : List Piece) : List Char := pieces.flatMap Piece.text

/-! ## Nodes as pieces -/

/-- What a node at the outermost level is, given its text. -/
def pieceOf (net : Network) (node : Tree) (text : List Char) : Piece :=
  if node.symbol == Symbol.ofToken .comment then .comment text
  else if node.symbol == Symbol.ofToken .launcher then .launcher text
  else if node.symbol == Symbol.ofCategory .importStatement then .importing text
  else if node.symbol == Symbol.ofCategory .expressionStatement && node.cost == 0 then
    match node.namedNodes net with
    | code :: _ =>
        .expression (text.take (code.stop - node.content)) (text.drop (code.stop - node.content))
    | [] => .other text
  else .other text

theorem text_pieceOf (net : Network) (node : Tree) (text : List Char) :
    (pieceOf net node text).text = text := by
  unfold pieceOf
  split
  · rfl
  · split
    · rfl
    · split
      · rfl
      · split
        · split
          · simp [Piece.text]
          · rfl
        · rfl

/-- The pieces of a text that starts at a place, by the nodes that are in it. -/
def cutAt (net : Network) : List Tree → Nat → List Char → List Piece
  | [], _, s => if s.isEmpty then [] else [.gap s]
  | node :: nodes, place, s =>
      let before := s.take (node.content - place)
      let here := s.drop (node.content - place)
      let length := node.stop - node.content
      let rest := pieceOf net node (here.take length) :: cutAt net nodes (place + (node.content - place) + length)
        (here.drop length)
      if before.isEmpty then rest else .gap before :: rest

/-- The nodes at the outermost level of a snippet. -/
def topNodes (s : List Char) : List Tree :=
  (Tree.ofText? s).elim [] (Tree.namedNodes Network.snippets.get)

/-- The pieces of a text, by the nodes that a reader finds in it. -/
def outlineBy (read : List Char → List Tree) (s : List Char) : List Piece :=
  cutAt Network.snippets.get (read s) 0 s

/-! ## Nothing is lost -/

/-- The texts of the pieces make up the text that has been cut. -/
theorem text_cutAt (net : Network) (nodes : List Tree) (place : Nat) (s : List Char) :
    textOf (cutAt net nodes place s) = s := by
  induction nodes generalizing place s with
  | nil =>
      unfold cutAt
      split
      · simp_all [textOf]
      · simp [textOf, Piece.text]
  | cons node nodes ih =>
      simp only [textOf] at ih
      unfold cutAt
      simp only
      split
      · rename_i h
        simp only [textOf, List.flatMap_cons, text_pieceOf, ih, List.take_append_drop]
        rw [List.isEmpty_iff] at h
        have := List.take_append_drop (node.content - place) s
        rw [h, List.nil_append] at this
        exact this
      · simp only [textOf, List.flatMap_cons, Piece.text_gap, text_pieceOf, ih,
          List.take_append_drop]

/-- The texts of the pieces of a text make up the text, whatever nodes a reader finds in it. -/
@[simp] theorem textOf_outlineBy (read : List Char → List Tree) (s : List Char) :
    textOf (outlineBy read s) = s := text_cutAt _ _ _ s

end CodeBlock.Snippet
