import CodeBlock.Proofs.Snippet.Returning
import CodeBlock.Proofs.Snippet.Separation
import CodeBlock.Snippet.Lexicon
import Mathlib.Data.List.Infix

set_option autoImplicit false

/-! # Giving back the last expression once

A body whose last expression is given back ends in a statement that gives it back, and giving back the last
expression of that body changes nothing: so it is whenever the word that is put in is read as a word. It is
put in without a blank before it. Where the text before the statement ends in a name, as the short form of
a module does, the two are one name; then the expression in its brackets is again the last statement, and
is given back a second time. -/

namespace CodeBlock.Snippet

/-! ## What is changed -/

def EndsInExpression (pieces : List Piece) : Prop :=
  ∃ before code rest after, lastStatement? pieces = some (before, .expression code rest, after)

/-- With the semicolon goes no bracket. -/
theorem LosesSemicolon.count_eq {rest more : List Char} (h : LosesSemicolon rest more) :
    rest.count ')' = more.count ')' := by
  cases h with
  | semicolon blanks more hblanks =>
      have hnone : ')' ∉ blanks := fun hmem => absurd (hblanks ')' hmem) (by decide)
      rw [List.count_append, List.count_eq_zero_of_not_mem hnone, Nat.zero_add,
        List.count_cons_of_ne (by decide)]
  | nothing => rfl

/-- A text is changed exactly if its last statement is an expression. -/
theorem returningText_eq_textOf_iff (pieces : List Piece) :
    returningText pieces = textOf pieces ↔ ¬ EndsInExpression pieces := by
  unfold returningText
  split
  · next before code rest after hlast =>
      refine iff_of_false (fun heq => ?_) fun hnot => hnot ⟨before, code, rest, after, hlast⟩
      -- there is a bracket more than before
      have hcount := congrArg (List.count ')') heq
      rw [(append_of_lastStatement? hlast).1] at hcount
      simp only [textOf, List.flatMap_append, List.flatMap_cons, Piece.text, List.count_append,
        (losesSemicolon_withoutSemicolon rest).count_eq] at hcount
      have hput : "return (".toList.count ')' + ");".toList.count ')' = 1 := by decide
      omega
  · next hother =>
      refine iff_of_true rfl ?_
      rintro ⟨before, code, rest, after, hlast⟩
      exact hother before code rest after hlast

/-- Giving back the last expression twice is giving it back once exactly if what it gives is no body whose
    last statement is an expression. -/
theorem returningBy_eq_self_iff (read : List Char → List Tree) (body : List Char) :
    returningBy read body = body ↔ ¬ EndsInExpression (outlineBy read body) := by
  have htext : textOf (outlineBy read body) = body := textOf_outlineBy read body
  rw [← returningText_eq_textOf_iff, htext]
  rfl

theorem returningBy_eq_self {read : List Char → List Tree} {body : List Char} {front back : List Tree}
    (h : InOrder (read body) body.length) (hread : read body = front ++ back)
    (hback : ∀ n ∈ back, n.expression? = none) (hsome : ∃ n ∈ back, n.isTrivial = false) :
    returningBy read body = body := by
  rcases exists_last (!·.isTrivial) back with hnone | ⟨before, last, after, rfl, hlast, hafter⟩
  · obtain ⟨n, hn, hother⟩ := hsome
    exact absurd (hnone n hn) (by simp [hother])
  · rw [← List.append_assoc] at hread
    exact returningBy_of_expression?_eq_none h hread (by simpa using hlast) (by simpa using hafter)
      (hback last (by simp))

/-! ## Reading what was put in -/

/-- Whether a text ends in a name, which goes on if letters are put behind it. -/
def EndsInName (s : List Char) : Prop := ∃ name, name <:+ s ∧ Spelling.namePattern.describes name = true

/-- The symbols of what is run without doing anything. -/
def IsIdle (k : Symbol) : Prop := k = .ofToken .comment ∨ k = .ofCategory .emptyStatement

theorem IsIdle.symbol_ne {k : Symbol} (h : IsIdle k) : k ≠ .ofCategory .expressionStatement := by
  rcases h with heq | heq <;> rw [heq] <;> decide +kernel

/-- The statement that gives back an expression. -/
def givingBack (code : List Char) : List Char := "return (".toList ++ code ++ ");".toList

namespace NodeReader

/-- The symbols of the nodes of a text. -/
def kinds (r : NodeReader) (s : List Char) : List Symbol := (r.nodes s).map Tree.symbol

/-- What is relied on, in texts that keep the rules, where an expression is given back. -/
structure ReadsReturns (r : NodeReader) : Prop where
  fits : ∀ {s : List Char}, r.Clean s → Fits (r.nodes s) s
  /-- A statement that gives an expression back may stand where the expression stood, unless its first word goes
      on a name. It and what follows are read there as by themselves; a comment before it may become a part of
      the statement that it stands behind. -/
  boundary : ∀ {s rest : List Char} {n code : Tree}, r.Clean s → n ∈ r.nodes s → n.expression? = some code →
    ¬ EndsInName (s.take n.content) → r.Clean (givingBack (code.textIn s) ++ rest) →
    r.Clean (s.take n.content ++ (givingBack (code.textIn s) ++ rest)) ∧
      r.kinds (givingBack (code.textIn s) ++ rest) <:+
        r.kinds (s.take n.content ++ (givingBack (code.textIn s) ++ rest))
  /-- It ends at its semicolon, in front of comments and empty statements at least. -/
  statement : ∀ {s rest : List Char} {n code : Tree}, r.Clean s → n ∈ r.nodes s →
    n.expression? = some code → r.Clean (givingBack (code.textIn s)) → r.Clean rest →
    (∀ k ∈ r.kinds rest, IsIdle k) →
    r.Clean (givingBack (code.textIn s) ++ rest) ∧
      r.kinds (givingBack (code.textIn s) ++ rest) = .ofCategory .returnStatement :: r.kinds rest
  /-- What a statement holds behind its expression is read in its own right as comments and an empty statement,
      and what follows it as before; the line that says what runs a text stands behind no statement. -/
  behind : ∀ {s rest : List Char} {before after : List Tree} {n code : Tree}, r.Clean s →
    r.nodes s = before ++ n :: after → n.expression? = some code →
    LosesSemicolon ((n.textIn s).drop (code.stop - n.content)) rest →
    r.Clean (rest ++ s.drop n.stop) ∧ (∀ m ∈ after, m.symbol ≠ .ofToken .launcher) ∧
      ∃ ks, r.kinds (rest ++ s.drop n.stop) = ks ++ after.map Tree.symbol ∧ ∀ k ∈ ks, IsIdle k

end NodeReader

namespace Tree

theorem expression?_of_symbol_ne {n : Tree} (h : n.symbol ≠ .ofCategory .expressionStatement) :
    n.expression? = none := by
  have hother : n.isExpression = false := by
    rw [isExpression, beq_false_of_ne h, Bool.false_and]
  rw [expression?, hother]
  rfl

/-- What is trivial is a comment, or the line that says what runs a text. -/
theorem isIdle_of_isTrivial {n : Tree} (h : n.isTrivial = true) (hother : n.symbol ≠ .ofToken .launcher) :
    IsIdle n.symbol := by
  rw [isTrivial, Bool.or_eq_true, beq_iff_eq, beq_iff_eq] at h
  exact .inl (h.resolve_right hother)

end Tree

namespace NodeReader.ReadsReturns

variable {r : NodeReader} {s : List Char} {before after : List Tree} {last code : Tree}

/-- A body whose last expression is given back ends in a statement that gives something back, and behind it in
    nothing that does anything. -/
theorem kinds_returningBy (h : r.ReadsReturns) (hclean : r.Clean s)
    (hread : r.nodes s = before ++ last :: after) (hlast : last.isTrivial = false)
    (hafter : ∀ n ∈ after, n.isTrivial = true) (hcode : last.expression? = some code)
    (hname : ¬ EndsInName (s.take last.content)) (hgiving : r.Clean (givingBack (code.textIn s))) :
    r.Clean (returningBy r.nodes s) ∧
      ∃ ks, .ofCategory .returnStatement :: ks <:+ r.kinds (returningBy r.nodes s) ∧ ∀ k ∈ ks, IsIdle k := by
  have hfits := h.fits hclean
  have hmem : last ∈ r.nodes s := by simp [hread]
  -- what is behind the statement is read first, then the statement in front of that, then all of it
  obtain ⟨hrest, hnone, ks, hks, hidle⟩ := h.behind hclean hread hcode (losesSemicolon_withoutSemicolon _)
  have hall : ∀ k ∈ ks ++ after.map Tree.symbol, IsIdle k := by
    refine List.forall_mem_append.2 ⟨hidle, List.forall_mem_map.2 fun n hn => ?_⟩
    exact Tree.isIdle_of_isTrivial (hafter n hn) (hnone n hn)
  obtain ⟨hstatement, hkinds⟩ := h.statement hclean hmem hcode hgiving hrest (hks ▸ hall)
  obtain ⟨hclean', hsuffix⟩ := h.boundary hclean hmem hcode hname hstatement
  have hreturning := returningBy_of_expression?_eq_some hfits.inOrder hread hlast hafter hcode
  rw [← hfits.textIn_eq hmem hcode] at hreturning
  have htext : returningBy r.nodes s = s.take last.content ++ (givingBack (code.textIn s) ++
      (withoutSemicolon ((last.textIn s).drop (code.stop - last.content)) ++ s.drop last.stop)) := by
    rw [hreturning]
    unfold givingBack
    generalize withoutSemicolon _ = more
    simp only [List.append_assoc]
  rw [hkinds, hks] at hsuffix
  rw [htext]
  exact ⟨hclean', _, hsuffix, hall⟩

/-- So its last statement is not given back a second time. -/
theorem returningBy_returningBy (h : r.ReadsReturns) (hclean : r.Clean s)
    (hread : r.nodes s = before ++ last :: after) (hlast : last.isTrivial = false)
    (hafter : ∀ n ∈ after, n.isTrivial = true) (hcode : last.expression? = some code)
    (hname : ¬ EndsInName (s.take last.content)) (hgiving : r.Clean (givingBack (code.textIn s))) :
    returningBy r.nodes (returningBy r.nodes s) = returningBy r.nodes s := by
  obtain ⟨hclean', ks, ⟨front, hkinds⟩, hks⟩ :=
    h.kinds_returningBy hclean hread hlast hafter hcode hname hgiving
  obtain ⟨ms, back, hsplit, -, hback⟩ := List.map_eq_append_iff.1 hkinds.symm
  obtain ⟨statement, behind, rfl, hstatement, rfl⟩ := List.map_eq_cons_iff.1 hback
  have hreturn : statement.isTrivial = false := by
    rw [Tree.isTrivial, hstatement]
    decide +kernel
  refine returningBy_eq_self (h.fits hclean').inOrder hsplit (fun n hn => ?_)
    ⟨statement, List.mem_cons_self, hreturn⟩
  refine Tree.expression?_of_symbol_ne ?_
  rcases List.mem_cons.1 hn with rfl | hn
  · rw [hstatement]
    decide +kernel
  · exact (hks _ (List.mem_map_of_mem hn)).symbol_ne

end NodeReader.ReadsReturns

/-- When giving back the last expression of a text that keeps the rules is done once and for all. It is exactly
    if the last statement of what it gives is no expression. So it is if there is no last expression; and if
    there is one, the text before its statement does not end in a name, and the statement that gives it back
    keeps the rules. -/
theorem returningBy_settles {r : NodeReader} (h : r.ReadsReturns) {s : List Char} (hclean : r.Clean s) :
    (returningBy r.nodes (returningBy r.nodes s) = returningBy r.nodes s ↔
      ¬ EndsInExpression (outlineBy r.nodes (returningBy r.nodes s))) ∧
    (¬ EndsInExpression (outlineBy r.nodes s) →
      returningBy r.nodes (returningBy r.nodes s) = returningBy r.nodes s) ∧
    ∀ before last after code, r.nodes s = before ++ last :: after → last.isTrivial = false →
      (∀ n ∈ after, n.isTrivial = true) → last.expression? = some code →
      ¬ EndsInName (s.take last.content) → r.Clean (givingBack (code.textIn s)) →
      returningBy r.nodes (returningBy r.nodes s) = returningBy r.nodes s := by
  refine ⟨returningBy_eq_self_iff r.nodes _, fun hnot => ?_, fun before last after code hread hlast hafter =>
    h.returningBy_returningBy hclean hread hlast hafter⟩
  rw [(returningBy_eq_self_iff r.nodes s).2 hnot, (returningBy_eq_self_iff r.nodes s).2 hnot]

/-! ## A reader of three texts -/

/-- The node of `x`. -/
def nameNode : Tree :=
  .mk (.ofCategory .expressionStatement) 0 0 1 [nodeOf (.ofToken .name) 0 1]
    { extra := false, missing := false, cost := 0, weight := 0, visible := true, inside := 1, below := 1,
      marks := 1, word := false }

/-- The empty text, and the texts in which `x` is given back or not, with their nodes. -/
def fewTexts : List (List Char × List Tree) :=
  [([], []), (['x'], [nameNode]), (givingBack ['x'], [nodeOf (.ofCategory .returnStatement) 0 11])]

def fewReader : NodeReader := ⟨fun s => (fewTexts.lookup s).getD [], fun s => s ∈ fewTexts.map Prod.fst⟩

instance (s : List Char) : Decidable (fewReader.Clean s) :=
  inferInstanceAs (Decidable (s ∈ fewTexts.map Prod.fst))

theorem expression?_nameNode : nameNode.expression? = some (nodeOf (.ofToken .name) 0 1) := by
  rw [Tree.expression?, if_pos (by decide +kernel)]
  rfl

theorem expression?_returnNode : (nodeOf (.ofCategory .returnStatement) 0 11).expression? = none := by
  rw [Tree.expression?, if_neg (by decide +kernel)]

theorem fewReader_cases {P : List Char → List Tree → Prop} (hempty : P [] []) (hname : P ['x'] [nameNode])
    (hreturn : P (givingBack ['x']) [nodeOf (.ofCategory .returnStatement) 0 11]) {s : List Char}
    (hs : fewReader.Clean s) : P s (fewReader.nodes s) := by
  simp only [fewReader, fewTexts, List.map_cons, List.map_nil, List.mem_cons, List.not_mem_nil,
    or_false] at hs
  rcases hs with rfl | rfl | rfl
  · exact hempty
  · exact hname
  · exact hreturn

/-- The only expression in them is `x`. -/
theorem of_expression?_fewReader {s : List Char} {before after : List Tree} {n code : Tree}
    (hs : fewReader.Clean s) (hread : fewReader.nodes s = before ++ n :: after)
    (hcode : n.expression? = some code) :
    s = ['x'] ∧ before = [] ∧ after = [] ∧ n = nameNode ∧ code = nodeOf (.ofToken .name) 0 1 := by
  revert hread
  refine fewReader_cases (P := fun s nodes => nodes = before ++ n :: after → s = ['x'] ∧ _) ?_ ?_ ?_ hs
  · simp
  · intro hnodes
    obtain ⟨rfl, rfl, rfl⟩ : before = [] ∧ n = nameNode ∧ after = [] := by
      simpa [List.singleton_eq_append_iff] using hnodes
    rw [expression?_nameNode] at hcode
    exact ⟨rfl, rfl, rfl, rfl, (Option.some.inj hcode).symm⟩
  · intro hnodes
    obtain ⟨-, rfl, -⟩ : before = [] ∧ n = nodeOf (.ofCategory .returnStatement) 0 11 ∧ after = [] := by
      simpa [List.singleton_eq_append_iff] using hnodes
    rw [expression?_returnNode] at hcode
    cases hcode

theorem fewReader_readsReturns : fewReader.ReadsReturns where
  fits := by
    intro s hs
    refine fewReader_cases (P := fun s nodes => Fits nodes s) ?_ ?_ ?_ hs
    · exact ⟨⟨by simp, by simp, .nil⟩, by simp⟩
    · refine ⟨⟨by decide, by decide, by decide⟩, ?_⟩
      rw [List.forall_mem_singleton, expression?_nameNode]
      intro code hcode
      rw [← Option.some.inj hcode]
      simp [nameNode, nodeOf, Tree.content, Tree.stop]
    · refine ⟨⟨by decide, by decide, by decide⟩, ?_⟩
      simp [expression?_returnNode]
  boundary := by
    intro s rest n code hs hn hcode _ hrest
    obtain ⟨before, after, hread⟩ := List.append_of_mem hn
    obtain ⟨rfl, rfl, rfl, rfl, rfl⟩ := of_expression?_fewReader hs hread hcode
    exact ⟨hrest, List.suffix_rfl⟩
  statement := by
    intro s rest n code hs hn hcode _ hrest hidle
    obtain ⟨before, after, hread⟩ := List.append_of_mem hn
    obtain ⟨rfl, rfl, rfl, rfl, rfl⟩ := of_expression?_fewReader hs hread hcode
    obtain rfl : rest = [] := by
      revert hidle
      unfold NodeReader.kinds
      refine fewReader_cases (P := fun rest nodes => (∀ k ∈ nodes.map Tree.symbol, IsIdle k) → rest = [])
        (fun _ => rfl) (fun hidle => ?_) (fun hidle => ?_) hrest
      · exact absurd rfl (hidle _ List.mem_cons_self).symbol_ne
      · rcases hidle _ List.mem_cons_self with heq | heq <;> exact absurd heq (by decide +kernel)
    exact ⟨by decide, rfl⟩
  behind := by
    intro s rest before after n code hs hread hcode hloses
    obtain ⟨rfl, rfl, rfl, rfl, rfl⟩ := of_expression?_fewReader hs hread hcode
    obtain rfl : rest = [] := List.suffix_nil.1 hloses.suffix
    exact ⟨by decide, by simp, [], rfl, by simp⟩

/-- An expression is given back once. -/
theorem returningBy_settles_name :
    returningBy fewReader.nodes (returningBy fewReader.nodes ['x']) = returningBy fewReader.nodes ['x'] := by
  have hname : ¬ EndsInName [] := by
    rintro ⟨name, hsuffix, hname⟩
    rw [List.suffix_nil.1 hsuffix] at hname
    exact absurd hname (by decide +kernel)
  exact (returningBy_settles fewReader_readsReturns (s := ['x']) (by decide)).2.2 [] nameNode [] _ rfl
    (by decide +kernel) (by simp) expression?_nameNode hname (by decide)

end CodeBlock.Snippet
