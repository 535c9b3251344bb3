import CodeBlock.Script

set_option autoImplicit false

/-! # The layout of scripts

The pieces of a script stand on lines of their own: each starts a line, and between two of them there is
nothing but line ends, so a comment at the end of one piece stops before the next. Pieces that are put on
lines keep this going, whatever they are; what is left to say is how the body and the epilogue are put
behind them, of which neither changes what stands before the body. -/

namespace CodeBlock

namespace Text

/-- Pieces in this order, with nothing but line ends around them. A piece may be at the very start; any
    other one stands right behind a line end. -/
inductive OnOwnLines : List (List Char) → List Char → Prop
  | nil (lineEnds : Nat) : OnOwnLines [] (List.replicate lineEnds '\n')
  | first (piece : List Char) (lineEnds : Nat) :
      OnOwnLines [piece] (piece ++ List.replicate lineEnds '\n')
  | snoc {pieces : List (List Char)} {before : List Char} (piece : List Char) (lineEnds : Nat) :
      OnOwnLines pieces before → before.getLast? = some '\n' →
      OnOwnLines (pieces ++ [piece]) (before ++ piece ++ List.replicate lineEnds '\n')

/-- A line end more is nothing but line ends still. -/
theorem OnOwnLines.newLine {pieces : List (List Char)} {s : List Char} (h : OnOwnLines pieces s) :
    OnOwnLines pieces (s ++ ['\n']) := by
  cases h with
  | nil lineEnds =>
      rw [← List.replicate_succ']
      exact .nil (lineEnds + 1)
  | first piece lineEnds =>
      rw [List.append_assoc, ← List.replicate_succ']
      exact .first piece (lineEnds + 1)
  | snoc piece lineEnds hbefore hends =>
      rw [List.append_assoc _ _ ['\n'], ← List.replicate_succ']
      exact .snoc piece (lineEnds + 1) hbefore hends

/-- So is one that there is only where it is needed. -/
theorem OnOwnLines.lineBreakAfter {pieces : List (List Char)} {s : List Char}
    (h : OnOwnLines pieces s) : OnOwnLines pieces (s ++ Script.lineBreakAfter s) := by
  rw [Script.lineBreakAfter]
  split
  · rwa [List.append_nil]
  · exact h.newLine

end Text

namespace Script

open Text (OnOwnLines)

theorem onOwnLines_flatMap {pieces : List (List Char)} {s : List Char} (h : OnOwnLines pieces s)
    (hends : s.getLast? = some '\n') (more : List (List Char)) :
    OnOwnLines (pieces ++ more) (s ++ more.flatMap onLines) ∧
      (s ++ more.flatMap onLines).getLast? = some '\n' := by
  induction more generalizing pieces s with
  | nil => simpa using ⟨h, hends⟩
  | cons piece more ih =>
      have hnext := ih (.snoc piece 1 h hends) (by simp)
      simpa [onLines] using hnext

/-! ## Pieces -/

/-- The imports, unless there are none. -/
def importPieces (s : Script) : List (List Char) := if s.imports.isEmpty then [] else [s.imports]

def piecesBefore (s : Script) : List (List Char) :=
  s.importPieces ++ s.declarations ++ s.prologue.toList ++ if s.wrapped then [wrapperHead] else []

/-- The body as it is run: as it stands, or with its last expression given back. -/
def bodyPiece (read : List Char → List Snippet.Tree) (s : Script) : List Char :=
  if s.wrapped then Snippet.returningBy read s.body else s.body

/-- The pieces behind the body; the wrapper goes on in a new line. -/
def piecesAfter (s : Script) : List (List Char) :=
  (if s.wrapped then [wrapperTail.drop 1] else []) ++ s.epilogue.toList

/-- All pieces, in the order in which they are run. -/
def pieces (read : List Char → List Snippet.Tree) (s : Script) : List (List Char) :=
  s.piecesBefore ++ s.bodyPiece read :: s.piecesAfter

/-! ## What stands before the body -/

/-- The text before the body. -/
def opening (s : Script) : List Char := s.head ++ if s.wrapped then wrapperHead else []

theorem head_eq_flatMap (s : Script) :
    s.head = s.importPieces.flatMap onLines ++ ['\n'] ++ s.declarations.flatMap onLines ++
      s.prologue.toList.flatMap onLines := by
  rw [head, importPieces]
  cases s.prologue <;> split <;> simp

theorem getLast?_opening (s : Script) : s.opening.getLast? = some '\n' := by
  rw [opening]
  split
  · rw [List.getLast?_append]
    rfl
  · rw [List.append_nil, getLast?_head]

/-- The imports stand at the start, and an empty line is behind them. -/
theorem onOwnLines_imports (s : Script) :
    OnOwnLines s.importPieces (s.importPieces.flatMap onLines ++ ['\n']) := by
  unfold importPieces
  split
  · exact .nil 1
  · simpa [onLines] using OnOwnLines.first s.imports 2

theorem onOwnLines_opening (s : Script) : OnOwnLines s.piecesBefore s.opening := by
  obtain ⟨hdeclarations, hends⟩ := onOwnLines_flatMap s.onOwnLines_imports (by simp) s.declarations
  obtain ⟨hhead, -⟩ := onOwnLines_flatMap hdeclarations hends s.prologue.toList
  rw [← head_eq_flatMap] at hhead
  rw [piecesBefore, opening]
  split
  · have hwrapper := hhead.snoc wrapperHead 0 s.getLast?_head
    simpa using hwrapper
  · simpa using hhead

/-! ## The whole script -/

variable (read : List Char → List Snippet.Tree) (s : Script)

theorem onOwnLines_wrappedBodyBy :
    OnOwnLines (s.piecesBefore ++ s.bodyPiece read :: if s.wrapped then [wrapperTail.drop 1] else [])
      (s.head ++ s.wrappedBodyBy read) := by
  have hopening := s.onOwnLines_opening
  have hends := s.getLast?_opening
  rw [opening] at hopening hends
  rw [bodyPiece, wrappedBodyBy]
  split at hopening
  · rename_i hwrapped
    rw [if_pos hwrapped] at hends
    simp only [if_pos hwrapped]
    -- the line end that the wrapper goes on with is taken for the one behind the body
    have hbody := hopening.snoc (Snippet.returningBy read s.body) 1 hends
    have htail := hbody.snoc (wrapperTail.drop 1) 0 (by simp)
    rw [show wrapperTail = '\n' :: wrapperTail.drop 1 by decide +kernel]
    simpa using htail
  · rename_i hwrapped
    rw [if_neg hwrapped] at hends
    simp only [if_neg hwrapped]
    have hbody := hopening.snoc s.body 0 hends
    simpa using hbody

theorem onOwnLines_pieces : OnOwnLines (s.pieces read) (s.textBy read) := by
  have hbody := s.onOwnLines_wrappedBodyBy read
  rw [pieces, piecesAfter, textBy]
  cases s.epilogue with
  | none => simpa using hbody
  | some epilogue =>
      have hends := getLast?_append_lineBreakAfter (s.head ++ s.wrappedBodyBy read)
      have hall := hbody.lineBreakAfter.snoc epilogue 0 hends
      simpa using hall

theorem exists_textBy_eq_opening :
    ∃ after, s.textBy read = s.opening ++ s.bodyPiece read ++ after := by
  have hbody : ∃ after, s.head ++ s.wrappedBodyBy read = s.opening ++ s.bodyPiece read ++ after := by
    rw [opening, wrappedBodyBy, bodyPiece]
    split
    · exact ⟨wrapperTail, by simp⟩
    · exact ⟨[], by simp⟩
  obtain ⟨after, hbody⟩ := hbody
  rw [textBy, hbody]
  generalize s.opening ++ s.bodyPiece read = before
  cases s.epilogue with
  | none => exact ⟨after, rfl⟩
  | some epilogue => exact ⟨after ++ lineBreakAfter (before ++ after) ++ epilogue, by simp⟩

/-- The pieces of a script stand on lines of their own, in their order. What stands before the body are
    the pieces before it, whatever the body and the epilogue are. -/
theorem onOwnLines_textBy :
    OnOwnLines (s.pieces read) (s.textBy read) ∧
      ∃ before, OnOwnLines s.piecesBefore before ∧ before.getLast? = some '\n' ∧
        ∀ body epilogue, ∃ after, textBy read { s with body := body, epilogue := epilogue } =
          before ++ bodyPiece read { s with body := body } ++ after := by
  refine ⟨s.onOwnLines_pieces read, s.opening, s.onOwnLines_opening, s.getLast?_opening, ?_⟩
  intro body epilogue
  exact exists_textBy_eq_opening read { s with body := body, epilogue := epilogue }

end Script

end CodeBlock
