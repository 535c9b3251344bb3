import CodeBlock.Snippet.Hoist
import Mathlib.Data.List.TakeWhile

set_option autoImplicit false

/-! # Hoisting loses no statement

A snippet is cut at the end of its last import. As the nodes of a text stand one after the other, each
of them is on one side of the cut: the statements before it are copied, and what comes after it stays as
it is. So the imports are all imports, and every other statement is in the body once and in its order,
whatever reads the text (`partsBy_of_inOrder`). -/

namespace CodeBlock.Snippet

/-! ## Nodes and their texts -/

namespace Tree

/-- The text of a node. -/
def textIn (s : List Char) (node : Tree) : List Char :=
  (s.drop node.content).take (node.stop - node.content)

def isImport (node : Tree) : Bool := node.symbol == Symbol.ofCategory .importStatement

/-- Whether a node does nothing when the text is run. -/
def isTrivial (node : Tree) : Bool :=
  node.symbol == Symbol.ofToken .comment || node.symbol == Symbol.ofToken .launcher

def isStatement (node : Tree) : Bool := !node.isImport && !node.isTrivial

theorem isStatement_of_isImport {node : Tree} (h : node.isImport = true) : node.isStatement = false := by
  rw [isStatement, h, Bool.not_true, Bool.false_and]

end Tree

/-- Nodes that stand one after the other in a text of so many characters. -/
structure InOrder (nodes : List Tree) (length : Nat) : Prop where
  proper : ∀ n ∈ nodes, n.content ≤ n.stop
  inside : ∀ n ∈ nodes, n.stop ≤ length
  apart : nodes.Pairwise fun a b => a.stop ≤ b.content

theorem InOrder.tail {node : Tree} {nodes : List Tree} {length : Nat}
    (h : InOrder (node :: nodes) length) : InOrder nodes length :=
  ⟨fun n hn => h.proper n (List.mem_cons_of_mem _ hn), fun n hn => h.inside n (List.mem_cons_of_mem _ hn),
    (List.pairwise_cons.1 h.apart).2⟩

/-- The nodes behind one stand behind its end. -/
theorem InOrder.stop_le {node : Tree} {nodes : List Tree} {length : Nat}
    (h : InOrder (node :: nodes) length) : ∀ n ∈ nodes, node.stop ≤ n.content :=
  (List.pairwise_cons.1 h.apart).1

/-- Of two nodes one ends before the other starts. -/
theorem InOrder.apart_of_ne {nodes : List Tree} {length : Nat} (h : InOrder nodes length) {m n : Tree}
    (hm : m ∈ nodes) (hn : n ∈ nodes) (hne : m ≠ n) : m.stop ≤ n.content ∨ n.stop ≤ m.content := by
  induction nodes with
  | nil => exact absurd hm (by simp)
  | cons node nodes ih =>
      rcases List.mem_cons.1 hm with rfl | hm' <;> rcases List.mem_cons.1 hn with rfl | hn'
      · exact absurd rfl hne
      · exact .inl (h.stop_le n hn')
      · exact .inr (h.stop_le m hm')
      · exact ih h.tail hm' hn'

theorem InOrder.right {before after : List Tree} {length : Nat} (h : InOrder (before ++ after) length) :
    InOrder after length := by
  induction before with
  | nil => exact h
  | cons node before ih => exact ih h.tail

theorem isImport_pieceOf (net : Network) (node : Tree) (text : List Char) :
    (pieceOf net node text).isImport = node.isImport := by
  have hcomment : (Symbol.ofToken .comment == Symbol.ofCategory .importStatement) = false := by
    decide +kernel
  have hlauncher : (Symbol.ofToken .launcher == Symbol.ofCategory .importStatement) = false := by
    decide +kernel
  unfold pieceOf Tree.isImport
  split
  · rename_i h
    rw [beq_iff_eq.1 h, hcomment]
    rfl
  · split
    · rename_i h
      rw [beq_iff_eq.1 h, hlauncher]
      rfl
    · split
      · rename_i h
        rw [h]
        rfl
      · rename_i h
        have hother : (node.symbol == Symbol.ofCategory .importStatement) = false := by simpa using h
        rw [hother]
        split
        · split <;> rfl
        · rfl

theorem isTrivial_pieceOf (net : Network) (node : Tree) (text : List Char) :
    (pieceOf net node text).isTrivial = node.isTrivial := by
  unfold pieceOf Tree.isTrivial
  split
  · rename_i h
    rw [h]
    rfl
  · rename_i hcomment
    split
    · rename_i h
      rw [h, Bool.or_true]
      rfl
    · rename_i hlauncher
      rw [Bool.not_eq_true] at hcomment hlauncher
      rw [hcomment, hlauncher]
      split
      · rfl
      · split
        · split <;> rfl
        · rfl

/-! ## Pieces of nodes -/

def Tree.pieceIn (s : List Char) (node : Tree) : Piece :=
  pieceOf Network.snippets.get node (node.textIn s)

@[simp]
theorem Tree.text_pieceIn (s : List Char) (node : Tree) : (node.pieceIn s).text = node.textIn s :=
  text_pieceOf _ _ _

@[simp]
theorem Tree.isImport_pieceIn (s : List Char) (node : Tree) :
    (node.pieceIn s).isImport = node.isImport := isImport_pieceOf _ _ _

@[simp]
theorem Tree.isTrivial_pieceIn (s : List Char) (node : Tree) :
    (node.pieceIn s).isTrivial = node.isTrivial := isTrivial_pieceOf _ _ _

def piecesFrom (s : List Char) (nodes : List Tree) (place : Nat) : List Piece :=
  cutAt Network.snippets.get nodes place (s.drop place)

/-- The piece in front of a node, if there is anything. -/
def gapBefore (s : List Char) (place : Nat) (node : Tree) : List Piece :=
  if ((s.drop place).take (node.content - place)).isEmpty then []
  else [.gap ((s.drop place).take (node.content - place))]

theorem filter_gapBefore {s : List Char} {place : Nat} {node : Tree} {f : Piece → Bool}
    (hgap : ∀ text, f (.gap text) = false) : (gapBefore s place node).filter f = [] := by
  unfold gapBefore
  split
  · rfl
  · simp [hgap]

theorem piecesFrom_cons {s : List Char} {node : Tree} {nodes : List Tree} {place : Nat}
    (hplace : place ≤ node.content) (hproper : node.content ≤ node.stop) :
    piecesFrom s (node :: nodes) place =
      gapBefore s place node ++ node.pieceIn s :: piecesFrom s nodes node.stop := by
  have hcontent : place + (node.content - place) = node.content := by omega
  have hstop : node.content + (node.stop - node.content) = node.stop := by omega
  unfold piecesFrom gapBefore
  rw [cutAt]
  simp only [List.drop_drop, hcontent, hstop]
  split
  · rfl
  · rfl

theorem filter_piecesFrom {s : List Char} {nodes : List Tree} {place : Nat} {f : Piece → Bool}
    {g : Tree → Bool} (h : InOrder nodes s.length) (hplace : ∀ n ∈ nodes, place ≤ n.content)
    (hgap : ∀ text, f (.gap text) = false) (hf : ∀ n, f (n.pieceIn s) = g n) :
    (piecesFrom s nodes place).filter f = (nodes.filter g).map (Tree.pieceIn s) := by
  induction nodes generalizing place with
  | nil =>
      unfold piecesFrom cutAt
      split
      · rfl
      · simp [hgap]
  | cons node nodes ih =>
      have hnode := List.mem_cons_self (a := node) (l := nodes)
      rw [piecesFrom_cons (hplace node hnode) (h.proper node hnode), List.filter_append]
      rw [filter_gapBefore hgap, List.nil_append, List.filter_cons, List.filter_cons, hf,
        ih h.tail h.stop_le]
      split <;> rfl

/-- The pieces up to a node come before those of the node and after it. -/
theorem piecesFrom_append {s : List Char} {before after : List Tree} {last : Tree} {place : Nat}
    (h : InOrder (before ++ last :: after) s.length)
    (hplace : ∀ n ∈ before ++ last :: after, place ≤ n.content) :
    ∃ pieces, piecesFrom s (before ++ last :: after) place =
        pieces ++ last.pieceIn s :: piecesFrom s after last.stop ∧
      ∀ {f : Piece → Bool} {g : Tree → Bool}, (∀ text, f (.gap text) = false) →
        (∀ n, f (n.pieceIn s) = g n) →
        pieces.filter f = (before.filter g).map (Tree.pieceIn s) := by
  induction before generalizing place with
  | nil =>
      refine ⟨_, piecesFrom_cons (hplace last (by simp)) (h.proper last (by simp)), ?_⟩
      intro f g hgap _
      exact filter_gapBefore hgap
  | cons node before ih =>
      obtain ⟨pieces, hpieces, hfilter⟩ := ih h.tail h.stop_le
      have hnode : node ∈ node :: before ++ last :: after := List.mem_cons_self
      refine ⟨gapBefore s place node ++ node.pieceIn s :: pieces, ?_, ?_⟩
      · rw [List.cons_append, piecesFrom_cons (hplace node hnode) (h.proper node hnode), hpieces]
        simp
      · intro f g hgap hf
        rw [List.filter_append, filter_gapBefore hgap, List.nil_append, List.filter_cons,
          List.filter_cons, hf, hfilter hgap hf]
        split <;> rfl

theorem textOf_piecesFrom (s : List Char) (nodes : List Tree) (place : Nat) :
    textOf (piecesFrom s nodes place) = s.drop place := text_cutAt _ _ _ _

/-- What holds of no node holds of no piece, if it holds of no gap. -/
theorem forall_mem_piecesFrom {s : List Char} {nodes : List Tree} {place : Nat} {f : Piece → Bool}
    {g : Tree → Bool} (h : InOrder nodes s.length) (hplace : ∀ n ∈ nodes, place ≤ n.content)
    (hgap : ∀ text, f (.gap text) = false) (hf : ∀ n, f (n.pieceIn s) = g n)
    (hnodes : ∀ n ∈ nodes, g n = false) : ∀ piece ∈ piecesFrom s nodes place, f piece = false := by
  have hnone : nodes.filter g = [] := by simpa using hnodes
  have hfilter := filter_piecesFrom h hplace hgap hf
  rw [hnone, List.map_nil, List.filter_eq_nil_iff] at hfilter
  simpa using hfilter

theorem isImport_of_mem_piecesFrom {s : List Char} {nodes : List Tree} {place : Nat}
    (h : InOrder nodes s.length) (hplace : ∀ n ∈ nodes, place ≤ n.content)
    (hnodes : ∀ n ∈ nodes, n.isImport = false) :
    ∀ piece ∈ piecesFrom s nodes place, piece.isImport = false :=
  forall_mem_piecesFrom h hplace (fun _ => rfl) (Tree.isImport_pieceIn s) hnodes

theorem isEmpty_textIn {s : List Char} {node : Tree} (hinside : node.stop ≤ s.length) :
    (node.textIn s).isEmpty = decide (node.stop ≤ node.content) := by
  rw [Bool.eq_iff_iff, List.isEmpty_iff_length_eq_zero, decide_eq_true_iff, Tree.textIn,
    List.length_take, List.length_drop]
  omega

/-- The pieces without a text that come first are those of the nodes that end where they start. -/
theorem takeWhile_piecesFrom {s : List Char} {nodes : List Tree} {place : Nat}
    (h : InOrder nodes s.length) (hplace : ∀ n ∈ nodes, place ≤ n.content) :
    (piecesFrom s nodes place).takeWhile (·.text.isEmpty) =
      (nodes.takeWhile fun n => decide (n.stop ≤ place)).map (Tree.pieceIn s) := by
  induction nodes with
  | nil =>
      unfold piecesFrom cutAt
      split
      · rfl
      · rename_i hrest
        rw [List.takeWhile_cons_of_neg]
        · rfl
        · simpa [Piece.text_gap] using hrest
  | cons node nodes ih =>
      have hnode := List.mem_cons_self (a := node) (l := nodes)
      have hcontent := hplace node hnode
      have hproper := h.proper node hnode
      have hinside := h.inside node hnode
      rw [piecesFrom_cons hcontent hproper, List.takeWhile_cons]
      -- a gap in front of the node is a piece with text, and a node behind a gap stops later
      by_cases hgap : node.content = place
      · have hnone : gapBefore s place node = [] := by simp [gapBefore, hgap]
        rw [hnone, List.nil_append, List.takeWhile_cons, Tree.text_pieceIn, isEmpty_textIn hinside, hgap]
        split
        · rename_i hstop
          have heq : node.stop = place := by
            rw [decide_eq_true_iff] at hstop
            omega
          rw [heq, ih h.tail fun n hn => heq ▸ h.stop_le n hn]
          rfl
        · rfl
      · have hsome : ((s.drop place).take (node.content - place)).isEmpty = false := by
          rw [Bool.eq_false_iff, Ne, List.isEmpty_iff_length_eq_zero, List.length_take, List.length_drop]
          omega
        have hstop : ¬ node.stop ≤ place := by omega
        simp [gapBefore, hsome, Piece.text, hstop]

/-! ## The last import -/

/-- No member passes a test, or there is a last one that does. -/
theorem exists_last {α : Type} (p : α → Bool) (as : List α) :
    (∀ a ∈ as, p a = false) ∨
      ∃ before last after, as = before ++ last :: after ∧ p last = true ∧ ∀ a ∈ after, p a = false := by
  induction as with
  | nil => exact .inl (by simp)
  | cons a as ih =>
      rcases ih with hnone | ⟨before, last, after, rfl, hlast, hafter⟩
      · cases ha : p a with
        | true => exact .inr ⟨[], a, as, rfl, ha, hnone⟩
        | false => exact .inl (List.forall_mem_cons.2 ⟨ha, hnone⟩)
      · exact .inr ⟨a :: before, last, after, rfl, hlast, hafter⟩

theorem atLastImport_of_forall {pieces : List Piece} (h : ∀ piece ∈ pieces, piece.isImport = false) :
    atLastImport pieces = ([], pieces) := by
  have hreverse : ∀ piece ∈ pieces.reverse, (!piece.isImport) = true := by simpa using h
  unfold atLastImport
  rw [List.dropWhile_eq_nil_iff.2 hreverse, List.takeWhile_eq_self_iff.2 hreverse]
  simp

/-- The pieces are cut behind their last import and what follows it without a text. -/
theorem atLastImport_cons {before after : List Piece} {last : Piece} (hlast : last.isImport = true)
    (hafter : ∀ piece ∈ after, piece.isImport = false) :
    atLastImport (before ++ last :: after) =
      (before ++ last :: after.takeWhile (·.text.isEmpty), after.dropWhile (·.text.isEmpty)) := by
  have hreverse : ∀ piece ∈ after.reverse, (!piece.isImport) = true := by simpa using hafter
  unfold atLastImport
  simp only [List.reverse_append, List.reverse_cons, List.append_assoc, List.singleton_append,
    List.dropWhile_append_of_pos hreverse, List.takeWhile_append_of_pos hreverse]
  simp [hlast]

/-! ## Texts that occur one after the other -/

/-- Texts occur in a text one after the other, each at a place of its own. -/
def OccurInOrder : List (List Char) → List Char → Prop
  | [], _ => True
  | text :: texts, s => ∃ gap rest, s = gap ++ text ++ rest ∧ OccurInOrder texts rest

theorem OccurInOrder.append_left {texts : List (List Char)} {s : List Char} (h : OccurInOrder texts s)
    (more : List Char) : OccurInOrder texts (more ++ s) := by
  cases texts with
  | nil => trivial
  | cons text texts =>
      obtain ⟨gap, rest, rfl, hrest⟩ := h
      exact ⟨more ++ gap, rest, by simp, hrest⟩

theorem occurInOrder_textIn {s : List Char} {nodes : List Tree} {place : Nat}
    (h : InOrder nodes s.length) (hplace : ∀ n ∈ nodes, place ≤ n.content) (p : Tree → Bool) :
    OccurInOrder ((nodes.filter p).map (Tree.textIn s)) (s.drop place) := by
  induction nodes generalizing place with
  | nil => trivial
  | cons node nodes ih =>
      have hnode := List.mem_cons_self (a := node) (l := nodes)
      have hcontent := hplace node hnode
      have hproper := h.proper node hnode
      have hrest := ih h.tail h.stop_le
      -- the text up to the node, the node, and the text behind it
      have hsplit : s.drop place = (s.drop place).take (node.content - place) ++ node.textIn s ++
          s.drop node.stop := by
        have hfirst := List.take_append_drop (node.content - place) (s.drop place)
        have hsecond := List.take_append_drop (node.stop - node.content) (s.drop node.content)
        rw [List.drop_drop, show place + (node.content - place) = node.content by omega] at hfirst
        rw [List.drop_drop, show node.content + (node.stop - node.content) = node.stop by omega] at hsecond
        rw [Tree.textIn, List.append_assoc, hsecond, hfirst]
      rw [List.filter_cons]
      split
      · exact ⟨_, _, hsplit, hrest⟩
      · rw [hsplit]
        exact hrest.append_left _

/-- Texts that are written each with something after it occur, and so do those in what follows. -/
theorem occurInOrder_flatMap {texts more : List (List Char)} {s : List Char} (ending : List Char)
    (h : OccurInOrder more s) :
    OccurInOrder (texts ++ more) (texts.flatMap (· ++ ending) ++ s) := by
  induction texts with
  | nil => exact h
  | cons text texts ih => exact ⟨[], _, by simp, ih.append_left ending⟩

/-! ## The two parts -/

/-- The statements that end no later than a place. -/
def stranded (nodes : List Tree) (place : Nat) : List Tree :=
  nodes.filter fun n => n.isStatement && decide (n.stop ≤ place)

/-- Pieces without a text may be left out of a text. -/
theorem textOf_dropWhile (pieces : List Piece) :
    textOf (pieces.dropWhile (·.text.isEmpty)) = textOf pieces := by
  induction pieces with
  | nil => rfl
  | cons piece pieces ih =>
      rw [List.dropWhile_cons]
      split
      · rename_i hempty
        rw [ih, textOf, textOf, List.flatMap_cons, List.isEmpty_iff.1 hempty, List.nil_append]
      · rfl

/-- As nodes stand one after the other, those that end no later than a place come first. -/
theorem InOrder.filter_stop_le {nodes : List Tree} {length : Nat} (h : InOrder nodes length) (place : Nat) :
    nodes.filter (fun n => decide (n.stop ≤ place)) = nodes.takeWhile fun n => decide (n.stop ≤ place) := by
  induction nodes with
  | nil => rfl
  | cons node nodes ih =>
      rw [List.filter_cons, List.takeWhile_cons]
      split
      · rw [ih h.tail]
      · rename_i hstop
        rw [decide_eq_true_iff] at hstop
        refine List.filter_eq_nil_iff.2 fun n hn => ?_
        have hbehind := h.stop_le n hn
        have hproper := h.proper n (List.mem_cons_of_mem _ hn)
        rw [decide_eq_true_iff]
        omega

/-- The statements that end no later than the last import are those before it, and those at its end that
    have no text. -/
theorem stranded_append {before after : List Tree} {last : Tree} {length : Nat}
    (h : InOrder (before ++ last :: after) length) (hlast : last.isImport = true) :
    stranded (before ++ last :: after) last.stop =
      before.filter Tree.isStatement ++
        (after.takeWhile fun n => decide (n.stop ≤ last.stop)).filter Tree.isStatement := by
  have hbefore : ∀ n ∈ before, decide (n.stop ≤ last.stop) = true := by
    intro n hn
    have hcontent := (List.pairwise_append.1 h.apart).2.2 n hn last List.mem_cons_self
    have hproper := h.proper last (by simp)
    exact decide_eq_true (by omega)
  have hstatement := Tree.isStatement_of_isImport hlast
  unfold stranded
  rw [List.filter_append, List.filter_cons, hstatement, Bool.false_and, if_neg Bool.false_ne_true]
  congr 1
  · exact List.filter_congr fun n hn => by rw [hbefore n hn, Bool.and_true]
  · rw [← h.right.tail.filter_stop_le, List.filter_filter]

/-- A text without imports is its own body. -/
theorem partsBy_of_forall {read : List Char → List Tree} {s : List Char}
    (h : InOrder (read s) s.length) (hread : ∀ n ∈ read s, n.isImport = false) :
    partsBy read s = ⟨[], s⟩ := by
  have hpieces := isImport_of_mem_piecesFrom h (fun n _ => Nat.zero_le n.content) hread
  have houtline : outlineBy read s = piecesFrom s (read s) 0 := rfl
  have htext := textOf_piecesFrom s (read s) 0
  unfold partsBy partsOf
  rw [houtline, atLastImport_of_forall hpieces]
  simpa using htext

/-- The imports are all imports; the body is the statements that end no later than the last one, each on
    a line of its own, and what follows it. -/
theorem partsBy_of_last {read : List Char → List Tree} {s : List Char} {before after : List Tree}
    {last : Tree} (h : InOrder (read s) s.length) (hread : read s = before ++ last :: after)
    (hlast : last.isImport = true) (hafter : ∀ n ∈ after, n.isImport = false) :
    partsBy read s =
      { imports := ['\n'].intercalate (((read s).filter Tree.isImport).map (Tree.textIn s))
        body := (stranded (read s) last.stop).flatMap (fun n => n.textIn s ++ ['\n']) ++
          s.drop last.stop } := by
  rw [hread] at h
  have hbehind := h.right
  obtain ⟨pieces, hpieces, hfilter⟩ := piecesFrom_append h fun n _ => Nat.zero_le n.content
  have houtline : outlineBy read s = piecesFrom s (read s) 0 := rfl
  have hempty := takeWhile_piecesFrom hbehind.tail hbehind.stop_le
  have hupTo : ∀ {f : Piece → Bool} {g : Tree → Bool}, (∀ text, f (.gap text) = false) →
      (∀ n, f (n.pieceIn s) = g n) →
      (pieces ++ last.pieceIn s :: (piecesFrom s after last.stop).takeWhile (·.text.isEmpty)).filter f =
        ((before ++ last :: after.takeWhile fun n => decide (n.stop ≤ last.stop)).filter g).map
          (Tree.pieceIn s) := by
    intro f g hgap hf
    have hcomp : f ∘ Tree.pieceIn s = g := funext hf
    rw [hempty, List.filter_append, hfilter hgap hf, ← List.map_cons, List.filter_map, hcomp,
      ← List.map_append, ← List.filter_append]
  have himports := hupTo (fun _ => rfl) (Tree.isImport_pieceIn s)
  have hstatements := @hupTo (fun piece => !piece.isImport && !piece.isTrivial) Tree.isStatement
    (fun _ => rfl) fun n => by rw [Tree.isImport_pieceIn, Tree.isTrivial_pieceIn, Tree.isStatement]
  -- No import is behind the last one, and the last one is no statement.
  have hbehindImports : ∀ {nodes : List Tree}, nodes.Sublist after → nodes.filter Tree.isImport = [] :=
    fun hsub => List.filter_eq_nil_iff.2 fun n hn => by simp [hafter n (hsub.mem hn)]
  have hall : (before ++ last :: after.takeWhile fun n => decide (n.stop ≤ last.stop)).filter
      Tree.isImport = (read s).filter Tree.isImport := by
    rw [hread, List.filter_append, List.filter_append, List.filter_cons, List.filter_cons,
      hbehindImports (List.takeWhile_sublist _), hbehindImports (List.Sublist.refl _)]
  have hstranded : (before ++ last :: after.takeWhile fun n => decide (n.stop ≤ last.stop)).filter
      Tree.isStatement = stranded (read s) last.stop := by
    have hstatement := Tree.isStatement_of_isImport hlast
    rw [hread, stranded_append h hlast, List.filter_append, List.filter_cons, hstatement,
      if_neg Bool.false_ne_true]
  unfold partsBy partsOf
  rw [houtline, hread, hpieces, atLastImport_cons (by simpa using hlast)
    (isImport_of_mem_piecesFrom hbehind.tail hbehind.stop_le hafter), ← hread]
  simp only [himports, hstatements, hall, hstranded, textOf_dropWhile, textOf_piecesFrom]
  simp [List.map_map, Function.comp_def, List.flatMap_map]

theorem occurInOrder_body {read : List Char → List Tree} {s : List Char}
    (h : InOrder (read s) s.length) :
    OccurInOrder (((read s).filter Tree.isStatement).map (Tree.textIn s)) (partsBy read s).body := by
  rcases exists_last Tree.isImport (read s) with hnone | ⟨before, last, after, hread, hlast, hafter⟩
  · rw [partsBy_of_forall h hnone]
    exact occurInOrder_textIn h (fun n _ => Nat.zero_le n.content) Tree.isStatement
  · rw [partsBy_of_last h hread hlast hafter]
    rw [hread] at h ⊢
    have hbehind := h.right
    have hcut := List.takeWhile_append_dropWhile (p := fun n => decide (n.stop ≤ last.stop)) (l := after)
    have hstatement := Tree.isStatement_of_isImport hlast
    -- the statements up to the end of the last import are put in front, those behind it stay
    have htexts : (before ++ last :: after).filter Tree.isStatement =
        stranded (before ++ last :: after) last.stop ++
          (after.dropWhile fun n => decide (n.stop ≤ last.stop)).filter Tree.isStatement := by
      rw [stranded_append h hlast, List.append_assoc, ← List.filter_append, hcut, List.filter_append,
        List.filter_cons, hstatement, if_neg Bool.false_ne_true]
    have hrest := hbehind.tail
    rw [← hcut] at hrest
    have hoccur := occurInOrder_textIn hrest.right
      (fun n hn => hbehind.stop_le n ((List.dropWhile_sublist _).mem hn)) Tree.isStatement
    have hbody := @occurInOrder_flatMap
      ((stranded (before ++ last :: after) last.stop).map (Tree.textIn s)) _ _ ['\n'] hoccur
    rw [htexts, List.map_append]
    rwa [List.flatMap_map] at hbody

/-- Hoisting loses no statement and copies none twice, if the nodes of a text stand one after the other in
    it. The imports are the texts of all imports, one to a line. Without imports the body is the text.
    Else it is the statements that end no later than the last import, each on a line of its own, and what
    follows that import: each node before the import ends where it starts at the latest, each one behind
    it starts where it ends at the earliest, and no statement has a part in common with an import. All
    statements occur in the body one after the other. -/
theorem partsBy_of_inOrder (read : List Char → List Tree) (s : List Char)
    (h : InOrder (read s) s.length) :
    (partsBy read s).imports =
        ['\n'].intercalate (((read s).filter Tree.isImport).map (Tree.textIn s)) ∧
      ((∀ n ∈ read s, n.isImport = false) → (partsBy read s).imports = [] ∧ (partsBy read s).body = s) ∧
      (∀ before last after, read s = before ++ last :: after → last.isImport = true →
        (∀ n ∈ after, n.isImport = false) →
          (partsBy read s).body =
              ((read s).filter fun n => !n.isImport && !n.isTrivial && decide (n.stop ≤ last.stop)).flatMap
                (fun n => n.textIn s ++ ['\n']) ++ s.drop last.stop ∧
            (∀ n ∈ before, n.stop ≤ last.content) ∧ (∀ n ∈ after, last.stop ≤ n.content) ∧
            ∀ n ∈ read s, n.isImport = true → n.stop ≤ last.stop ∧
              ∀ m ∈ read s, m.isImport = false → m.stop ≤ n.content ∨ n.stop ≤ m.content) ∧
      OccurInOrder (((read s).filter fun n => !n.isImport && !n.isTrivial).map (Tree.textIn s))
        (partsBy read s).body := by
  have himports : (partsBy read s).imports =
      ['\n'].intercalate (((read s).filter Tree.isImport).map (Tree.textIn s)) := by
    rcases exists_last Tree.isImport (read s) with hnone | ⟨before, last, after, hread, hlast, hafter⟩
    · have hfilter : (read s).filter Tree.isImport = [] := List.filter_eq_nil_iff.2 (by simpa using hnone)
      rw [partsBy_of_forall h hnone, hfilter]
      rfl
    · rw [partsBy_of_last h hread hlast hafter]
  refine ⟨himports, fun hnone => ?_, fun before last after hread hlast hafter => ?_, occurInOrder_body h⟩
  · rw [partsBy_of_forall h hnone]
    exact ⟨rfl, rfl⟩
  · rw [partsBy_of_last h hread hlast hafter]
    have hapart := h.apart
    rw [hread, List.pairwise_append] at hapart
    have hproper := h.proper last (by simp [hread])
    have hbefore : ∀ n ∈ before, n.stop ≤ last.content :=
      fun n hn => hapart.2.2 n hn last List.mem_cons_self
    refine ⟨rfl, hbefore, (List.pairwise_cons.1 hapart.2.1).1, fun n hn himport => ⟨?_, ?_⟩⟩
    · rw [hread, List.mem_append, List.mem_cons] at hn
      -- in order, an import is the last one or in front of it
      rcases hn with hn | rfl | hn
      · exact Nat.le_trans (hbefore n hn) hproper
      · exact Nat.le_refl _
      · exact absurd himport (by simp [hafter n hn])
    · intro m hm hm'
      -- another node is not the import, so the two are apart
      have hne : m ≠ n := by
        rintro rfl
        exact absurd himport (by simp [hm'])
      exact h.apart_of_ne hm hn hne

/-- Statements before, between and behind two imports. -/
theorem partsBy_of_two_imports :
    let nodes : List Tree :=
      [.leaf Network.snippets.get (.ofCategory .expressionStatement) 0 0 2,
        .leaf Network.snippets.get (.ofCategory .importStatement) 2 2 13,
        .leaf Network.snippets.get (.ofCategory .expressionStatement) 13 13 15,
        .leaf Network.snippets.get (.ofCategory .importStatement) 15 15 26,
        .leaf Network.snippets.get (.ofCategory .expressionStatement) 26 26 27]
    partsBy (fun _ => nodes) "x;import 'b';y;import 'c';z".toList =
      ⟨"import 'b';\nimport 'c';".toList, "x;\ny;\nz".toList⟩ := by
  intro nodes
  obtain ⟨himports, -, hbody, -⟩ := partsBy_of_inOrder (fun _ => nodes) "x;import 'b';y;import 'c';z".toList
    ⟨by decide, by decide, by decide⟩
  obtain ⟨hbody, -⟩ := hbody [_, _, _] _ [_] rfl (by decide +kernel) (by decide +kernel)
  exact Parts.ext (himports.trans (by decide +kernel)) (hbody.trans (by decide +kernel))

end CodeBlock.Snippet
