import CodeBlock.Proofs.Snippet.Hoisting
import CodeBlock.Snippet.Tail

set_option autoImplicit false

/-! # Giving back the last expression loses nothing

A body whose last statement is an expression is cut in four: what stands before the statement, the
expression, what the statement holds after it, and what stands after the statement. The expression is put in
brackets behind the word that gives it back. Of the rest only the semicolon of the statement goes, with the
blanks before it; comments stay where they are. Which nodes a body has is left to a reader, of which no more
is asked than that its nodes stand one after the other, and that a statement which is an expression starts
with it. -/

namespace CodeBlock.Snippet

/-! ## The last statement -/

theorem append_of_lastStatement? {pieces before after : List Piece} {last : Piece}
    (h : lastStatement? pieces = some (before, last, after)) :
    pieces = before ++ last :: after ∧ last.isTrivial = false := by
  have hall := List.takeWhile_append_dropWhile (p := Piece.isTrivial) (l := pieces.reverse)
  unfold lastStatement? at h
  simp only at h
  split at h
  · cases h
  · rename_i piece front hdrop
    cases h
    constructor
    · rw [hdrop] at hall
      have hreverse := congrArg List.reverse hall
      simpa using hreverse.symm
    · have hhead := List.head?_dropWhile_not Piece.isTrivial pieces.reverse
      rw [hdrop] at hhead
      simpa using hhead

theorem lastStatement?_append {before after : List Piece} {last : Piece} (hlast : last.isTrivial = false)
    (hafter : ∀ piece ∈ after, piece.isTrivial = true) :
    lastStatement? (before ++ last :: after) = some (before, last, after) := by
  have hreverse : ∀ piece ∈ after.reverse, piece.isTrivial = true := by simpa using hafter
  unfold lastStatement?
  simp only [List.reverse_append, List.reverse_cons, List.append_assoc, List.singleton_append,
    List.dropWhile_append_of_pos hreverse, List.takeWhile_append_of_pos hreverse]
  simp [hlast]

theorem lastStatement?_of_forall {pieces : List Piece} (h : ∀ piece ∈ pieces, piece.isTrivial = true) :
    lastStatement? pieces = none := by
  have hreverse : ∀ piece ∈ pieces.reverse, piece.isTrivial = true := by simpa using h
  unfold lastStatement?
  rw [List.dropWhile_eq_nil_iff.2 hreverse]

/-! ## The semicolon of a statement -/

/-- The second text is the first one without the semicolon that stands in it behind nothing but blanks, and
    without those blanks; it is the first one itself if there is no such semicolon. -/
inductive LosesSemicolon : List Char → List Char → Prop where
  | semicolon (blanks rest : List Char) : (∀ c ∈ blanks, Text.isBlank c = true) →
      LosesSemicolon (blanks ++ ';' :: rest) rest
  | nothing (rest : List Char) :
      (∀ blanks more, (∀ c ∈ blanks, Text.isBlank c = true) → rest ≠ blanks ++ ';' :: more) →
      LosesSemicolon rest rest

theorem LosesSemicolon.suffix {rest more : List Char} (h : LosesSemicolon rest more) : more <:+ rest := by
  cases h with
  | semicolon blanks => exact (List.suffix_cons _ _).trans (List.suffix_append _ _)
  | nothing => exact List.suffix_rfl

theorem losesSemicolon_withoutSemicolon (rest : List Char) :
    LosesSemicolon rest (withoutSemicolon rest) := by
  have hsplit : rest.takeWhile Text.isBlank ++ Text.trimStart rest = rest := List.takeWhile_append_dropWhile
  unfold withoutSemicolon
  split
  · next more hmore =>
      have hblanks : ∀ c ∈ rest.takeWhile Text.isBlank, Text.isBlank c = true :=
        fun c hc => List.mem_takeWhile_imp hc
      have hloses := LosesSemicolon.semicolon _ more hblanks
      rwa [← hmore, hsplit] at hloses
  · next hnone =>
      refine .nothing rest fun blanks more hblanks hrest => hnone more ?_
      rw [hrest, Text.trimStart, List.dropWhile_append_of_pos hblanks]
      rfl

theorem LosesSemicolon.eq_withoutSemicolon {rest more : List Char} (h : LosesSemicolon rest more) :
    more = withoutSemicolon rest := by
  cases h with
  | semicolon blanks more hblanks =>
      have htrim : Text.trimStart (blanks ++ ';' :: more) = ';' :: more :=
        List.dropWhile_append_of_pos hblanks
      simp only [withoutSemicolon, htrim]
  | nothing rest hnone =>
      generalize hmore : withoutSemicolon rest = more
      have hloses := losesSemicolon_withoutSemicolon rest
      rw [hmore] at hloses
      cases hloses with
      | semicolon blanks more hblanks => exact absurd rfl (hnone blanks more hblanks)
      | nothing => rfl

/-! ## The last statement as a node -/

namespace Tree

/-- Whether a node is a statement that is an expression, and breaks no rules. -/
def isExpression (node : Tree) : Bool :=
  node.symbol == Symbol.ofCategory .expressionStatement && node.cost == 0

/-- The expression that a statement starts with, if it is one. -/
def expression? (node : Tree) : Option Tree :=
  if node.isExpression then (node.namedNodes Network.snippets.get).head? else none

theorem pieceIn_of_expression {node code : Tree} (h : node.expression? = some code) (s : List Char) :
    node.pieceIn s = .expression ((node.textIn s).take (code.stop - node.content))
      ((node.textIn s).drop (code.stop - node.content)) := by
  have hcomment : (Symbol.ofCategory .expressionStatement == Symbol.ofToken .comment) = false := by
    decide +kernel
  have hlauncher : (Symbol.ofCategory .expressionStatement == Symbol.ofToken .launcher) = false := by
    decide +kernel
  have himport : (Symbol.ofCategory .expressionStatement == Symbol.ofCategory .importStatement) = false := by
    decide +kernel
  unfold expression? at h
  split at h
  · next hexpression =>
      obtain ⟨codes, hcodes⟩ := List.head?_eq_some_iff.1 h
      have hsymbol := beq_iff_eq.1 (Bool.and_eq_true_iff.1 hexpression).1
      unfold isExpression at hexpression
      unfold pieceIn pieceOf
      rw [if_pos hexpression, hcodes, hsymbol, hcomment, hlauncher, himport]
      simp only [Bool.false_eq_true, if_false]
  · cases h

theorem pieceIn_ne_expression {node : Tree} (h : node.expression? = none) (s code rest : List Char) :
    node.pieceIn s ≠ .expression code rest := by
  unfold pieceIn pieceOf
  split
  · simp
  split
  · simp
  split
  · simp
  split
  · next hexpression =>
      unfold expression? at h
      rw [isExpression, if_pos hexpression, List.head?_eq_none_iff] at h
      rw [h]
      simp
  · simp

end Tree

/-! ## The four parts of a body -/

/-- What is asked of the nodes of a text: that they stand in order, and that an expression stands in its
    statement, at its start. -/
structure Fits (nodes : List Tree) (s : List Char) : Prop where
  inOrder : InOrder nodes s.length
  expression : ∀ node ∈ nodes, ∀ code, node.expression? = some code →
    code.content = node.content ∧ code.stop ≤ node.stop

theorem isTrivial_of_mem_piecesFrom {s : List Char} {nodes : List Tree} {place : Nat}
    (h : InOrder nodes s.length) (hplace : ∀ n ∈ nodes, place ≤ n.content)
    (hnodes : ∀ n ∈ nodes, n.isTrivial = true) :
    ∀ piece ∈ piecesFrom s nodes place, piece.isTrivial = true := by
  have hnone : ∀ n ∈ nodes, (!n.isTrivial) = false := by simpa using hnodes
  have hpieces := forall_mem_piecesFrom (f := (!·.isTrivial)) h hplace (fun _ => rfl) (fun n => by simp) hnone
  simpa using hpieces

theorem eq_append_textIn {s : List Char} {node : Tree} (h : node.content ≤ node.stop) :
    s = s.take node.content ++ node.textIn s ++ s.drop node.stop := by
  have hsplit := List.take_append_drop (node.stop - node.content) (s.drop node.content)
  rw [List.drop_drop, Nat.add_sub_of_le h] at hsplit
  rw [List.append_assoc, Tree.textIn, hsplit, List.take_append_drop]

theorem exists_lastStatement?_outlineBy {read : List Char → List Tree} {s : List Char} {before after : List Tree}
    {last : Tree} (h : InOrder (read s) s.length) (hread : read s = before ++ last :: after)
    (hlast : last.isTrivial = false) (hafter : ∀ n ∈ after, n.isTrivial = true) :
    ∃ front back, lastStatement? (outlineBy read s) = some (front, last.pieceIn s, back) ∧
      textOf front = s.take last.content ∧ textOf back = s.drop last.stop := by
  rw [hread] at h
  have hplace : ∀ n ∈ before ++ last :: after, 0 ≤ n.content := fun _ _ => Nat.zero_le _
  obtain ⟨front, hpieces, -⟩ := piecesFrom_append h hplace
  have houtline : outlineBy read s = front ++ last.pieceIn s :: piecesFrom s after last.stop := by
    rw [← hpieces, outlineBy, hread]
    rfl
  have htrivial := isTrivial_of_mem_piecesFrom h.right.tail h.right.stop_le hafter
  refine ⟨front, piecesFrom s after last.stop, ?_, ?_, textOf_piecesFrom s after last.stop⟩
  · rw [houtline, lastStatement?_append (by rw [Tree.isTrivial_pieceIn, hlast]) htrivial]
  · have htext : textOf (outlineBy read s) = s := textOf_outlineBy read s
    rw [houtline, textOf, List.flatMap_append, List.flatMap_cons, Tree.text_pieceIn] at htext
    have hsplit := eq_append_textIn (s := s) (h.proper last (by simp))
    rw [← textOf_piecesFrom s after last.stop, List.append_assoc] at hsplit
    exact List.append_cancel_right (htext.trans hsplit)

section

variable {read : List Char → List Tree} {body : List Char}

theorem returningBy_of_forall_isTrivial (h : InOrder (read body) body.length)
    (htrivial : ∀ n ∈ read body, n.isTrivial = true) : returningBy read body = body := by
  have hplace : ∀ n ∈ read body, 0 ≤ n.content := fun _ _ => Nat.zero_le _
  have hnone : lastStatement? (outlineBy read body) = none :=
    lastStatement?_of_forall (isTrivial_of_mem_piecesFrom h hplace htrivial)
  rw [returningBy, returningText, hnone]
  exact textOf_outlineBy _ _

variable {before after : List Tree} {last : Tree}

theorem returningBy_of_expression?_eq_none (h : InOrder (read body) body.length)
    (hread : read body = before ++ last :: after) (hlast : last.isTrivial = false)
    (hafter : ∀ n ∈ after, n.isTrivial = true) (hnone : last.expression? = none) :
    returningBy read body = body := by
  obtain ⟨front, back, hstatement, -⟩ := exists_lastStatement?_outlineBy h hread hlast hafter
  rw [returningBy, returningText, hstatement]
  split
  · next heq =>
      rw [Option.some.injEq, Prod.mk.injEq, Prod.mk.injEq] at heq
      exact absurd heq.2.1 (Tree.pieceIn_ne_expression hnone _ _ _)
  · exact textOf_outlineBy _ _

theorem returningBy_of_expression?_eq_some (h : InOrder (read body) body.length)
    (hread : read body = before ++ last :: after) (hlast : last.isTrivial = false)
    (hafter : ∀ n ∈ after, n.isTrivial = true) {code : Tree} (hcode : last.expression? = some code) :
    returningBy read body =
      body.take last.content ++ "return (".toList ++ (last.textIn body).take (code.stop - last.content) ++
        ");".toList ++ withoutSemicolon ((last.textIn body).drop (code.stop - last.content)) ++
        body.drop last.stop := by
  obtain ⟨front, back, hstatement, hfront, hback⟩ := exists_lastStatement?_outlineBy h hread hlast hafter
  rw [returningBy, returningText, hstatement, Tree.pieceIn_of_expression hcode]
  simp only [hfront, hback]

end

/-- The text of an expression is the first part of its statement. -/
theorem Fits.textIn_eq {nodes : List Tree} {s : List Char} (h : Fits nodes s) {node code : Tree}
    (hnode : node ∈ nodes) (hcode : node.expression? = some code) :
    code.textIn s = (node.textIn s).take (code.stop - node.content) := by
  obtain ⟨hcontent, hstop⟩ := h.expression node hnode code hcode
  rw [Tree.textIn, Tree.textIn, List.take_take, hcontent, Nat.min_eq_left (by omega)]

/-- A body is given back as it is unless its last statement is an expression. Of the four parts of a body
    whose last statement is one, the first, the expression and the last are kept as they are, and so is the
    rest of the statement but for its semicolon. -/
theorem returningBy_of_fits {read : List Char → List Tree} {body : List Char} (h : Fits (read body) body) :
    ((∀ n ∈ read body, n.isTrivial = true) → returningBy read body = body) ∧
    ∀ before last after, read body = before ++ last :: after → last.isTrivial = false →
      (∀ n ∈ after, n.isTrivial = true) →
      (last.expression? = none → returningBy read body = body) ∧
      ∀ code, last.expression? = some code →
        ∃ rest rest', last.textIn body = code.textIn body ++ rest ∧ LosesSemicolon rest rest' ∧
          body = body.take last.content ++ code.textIn body ++ rest ++ body.drop last.stop ∧
          returningBy read body = body.take last.content ++ "return (".toList ++ code.textIn body ++
            ");".toList ++ rest' ++ body.drop last.stop := by
  refine ⟨returningBy_of_forall_isTrivial h.inOrder, fun before last after hread hlast hafter =>
    ⟨returningBy_of_expression?_eq_none h.inOrder hread hlast hafter, fun code hcode => ?_⟩⟩
  have hmem : last ∈ read body := by simp [hread]
  have hcut := List.take_append_drop (code.stop - last.content) (last.textIn body)
  have hsplit := eq_append_textIn (s := body) (h.inOrder.proper last hmem)
  have hreturning := returningBy_of_expression?_eq_some h.inOrder hread hlast hafter hcode
  rw [← h.textIn_eq hmem hcode] at hcut hreturning
  rw [← hcut, ← List.append_assoc] at hsplit
  exact ⟨_, _, hcut.symm, losesSemicolon_withoutSemicolon _, hsplit, hreturning⟩

/-- A statement with a semicolon, and a comment behind it. -/
theorem returningBy_of_fits_comment :
    let facts : Facts :=
      { extra := false, missing := false, cost := 0, weight := 0, visible := true, inside := 0, below := 0,
        marks := 1, word := false }
    let code : Tree := .mk (Symbol.ofToken .name) 0 0 1 [] facts
    let statement : Tree := .mk (Symbol.ofCategory .expressionStatement) 0 0 3 [code] facts
    let comment : Tree := .mk (Symbol.ofToken .comment) 3 4 8 [] facts
    let body := "x ; // y".toList
    Fits [statement, comment] body ∧ statement.expression? = some code ∧
      returningBy (fun _ => [statement, comment]) body = "return (x); // y".toList := by
  intro facts code statement comment body
  have hcode : statement.expression? = some code := by
    have hexpression : statement.isExpression = true := by decide +kernel
    rw [Tree.expression?, if_pos hexpression]
    rfl
  have hcomment : comment.expression? = none := by
    have hexpression : comment.isExpression = false := by decide +kernel
    rw [Tree.expression?, hexpression]
    rfl
  have hfits : Fits [statement, comment] body := by
    refine ⟨⟨by decide, by decide, by decide⟩, ?_⟩
    simp only [List.forall_mem_cons, hcode, hcomment]
    simp [code, statement, Tree.content, Tree.stop]
  refine ⟨hfits, hcode, ?_⟩
  have hbody := @returningBy_of_fits (fun _ => [statement, comment]) body hfits
  obtain ⟨rest, rest', hrest, hloses, -, hreturning⟩ :=
    (hbody.2 [] statement [comment] rfl (by decide +kernel) (by decide +kernel)).2 code hcode
  cases hrest
  rw [hreturning, hloses.eq_withoutSemicolon]
  decide +kernel

end CodeBlock.Snippet
