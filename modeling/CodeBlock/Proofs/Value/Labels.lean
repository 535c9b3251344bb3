import CodeBlock.Proofs.Text.Identifier
import CodeBlock.Proofs.Value.Unambiguous

set_option autoImplicit false

/-! # Labels that stand bare

A label is written bare when it looks like an identifier, and else as a string. What looks like one is made of
letters, numbers, low lines and dollar signs. That is nearly but not quite what the script's language takes for
one: one letter and the numbers that are no digits are in no name. So a bare label is the name of an identifier
just if it has no such stray in it (`isIdentifierName_iff_of_isBareLabel`). -/

namespace CodeBlock

open Text (isStray isIdStart isIdContinue isIdentifierName isLetter isNumber)

/-! ## Labels as names -/

theorem startsName_of_isLabelStart {c : Char} (h : isLabelStart c = true) :
    (isIdStart c || c == '$' || c == '_') = !isStray c := by
  simp only [isLabelStart, Bool.or_eq_true, beq_iff_eq] at h
  rcases h with (hletter | rfl) | rfl
  · have hne : ∀ d, isLetter d = false → (c == d) = false := by
      intro d hd
      rw [beq_eq_false_iff_ne]
      rintro rfl
      simp [hletter] at hd
    rw [Text.isIdStart_of_isLetter hletter, hne '$' (by decide +kernel), hne '_' (by decide +kernel),
      Bool.or_false, Bool.or_false]
  · decide +kernel
  · decide +kernel

/-- What a bare label goes on with goes on with a name, unless it is a stray. -/
theorem continuesName_of_isLabelChar {c : Char} (h : isLabelChar c = true) :
    (isIdContinue c || c == '$' || c == '\u200c' || c == '\u200d') = !isStray c := by
  by_cases hsigns : c = '$' ∨ c = '_'
  · rcases hsigns with rfl | rfl <;> decide +kernel
  obtain ⟨hdollar, hline⟩ := not_or.1 hsigns
  have hne : ∀ d, isLabelChar d = false → (c == d) = false := by
    intro d hd
    rw [beq_eq_false_iff_ne]
    rintro rfl
    simp [h] at hd
  have hcontinue : isIdContinue c = !isStray c := by
    simp only [isLabelChar, isLabelStart, Bool.or_eq_true, beq_iff_eq, hdollar, hline, or_false] at h
    rcases h with hletter | hnumber
    · exact Text.isIdContinue_of_isLetter hletter
    · exact Text.isIdContinue_of_isNumber hnumber
  rw [hcontinue, beq_eq_false_iff_ne.2 hdollar, hne '\u200c' (by decide +kernel),
    hne '\u200d' (by decide +kernel), Bool.or_false, Bool.or_false, Bool.or_false]

theorem isIdentifierName_iff_of_isBareLabel {label : List Char} (h : isBareLabel label = true) :
    isIdentifierName label = true ↔ ∀ c ∈ label, isStray c = false := by
  cases label with
  | nil => exact absurd h (by simp [isBareLabel])
  | cons c rest =>
      simp only [isBareLabel, Bool.and_eq_true, List.all_eq_true] at h
      obtain ⟨hstart, hrest⟩ := h
      have hnames : ∀ d ∈ rest,
          (isIdContinue d || d == '$' || d == '\u200c' || d == '\u200d') = !isStray d :=
        fun d hd => continuesName_of_isLabelChar (hrest d hd)
      rw [isIdentifierName, startsName_of_isLabelStart hstart, Bool.and_eq_true, List.all_eq_true,
        List.forall_mem_cons, Bool.not_eq_true']
      refine and_congr_right fun _ => forall₂_congr fun d hd => ?_
      rw [hnames d hd, Bool.not_eq_true']

namespace Value

/-! ## What is written, piece by piece -/

/-- A piece of a literal: punctuation, a label or a leaf. -/
inductive Piece where
  | mark (text : List Char)
  | label (name : String)
  | leaf (value : Scalar)

namespace Piece

/-- The text of a piece. -/
def text : Piece → List Char
  | mark text => text
  | label name => labelText name.toList
  | leaf value => value.literalText

def label? : Piece → Option String
  | label name => some name
  | _ => none

end Piece

/-- What separates an element or a field from the one before it. -/
def separators (first : Bool) : List Piece := if first then [] else [.mark [',', ' ']]

mutual

/-- The pieces of the literal of a value. -/
def pieces : Value → List Piece
  | .scalar leaf => [.leaf leaf]
  | .sequence items => .mark ['['] :: piecesOfItems true items ++ [.mark [']']]
  | .record [] => [.mark ['{', '}']]
  | .record (field :: fields) =>
      .mark ['{', ' '] :: piecesOfFields true (field :: fields) ++ [.mark [' ', '}']]

/-- The pieces of the elements of a sequence. -/
def piecesOfItems (first : Bool) : List Value → List Piece
  | [] => []
  | item :: items => separators first ++ item.pieces ++ piecesOfItems false items

def piecesOfFields (first : Bool) : List (String × Value) → List Piece
  | [] => []
  | (label, value) :: fields =>
      separators first ++ [.label label, .mark [':', ' ']] ++ value.pieces ++ piecesOfFields false fields

end

mutual

def labels : Value → List String
  | .scalar _ => []
  | .sequence items => labelsOfItems items
  | .record fields => labelsOfFields fields

/-- The labels in the elements of a sequence. -/
def labelsOfItems : List Value → List String
  | [] => []
  | item :: items => item.labels ++ labelsOfItems items

def labelsOfFields : List (String × Value) → List String
  | [] => []
  | (label, value) :: fields => label :: value.labels ++ labelsOfFields fields

end

theorem text_separators (first : Bool) :
    (separators first).flatMap Piece.text = if first then [] else [',', ' '] := by
  cases first <;> rfl

theorem label?_separators (first : Bool) : (separators first).filterMap Piece.label? = [] := by
  cases first <;> rfl

mutual

theorem flatMap_text_pieces : (v : Value) → v.pieces.flatMap Piece.text = v.literalText
  | .scalar leaf => by
      rw [pieces, literalText, List.flatMap_singleton]
      rfl
  | .sequence items => by
      rw [pieces, literalText, List.cons_append, List.flatMap_cons, List.flatMap_append,
        flatMap_text_piecesOfItems]
      rfl
  | .record [] => by
      rw [pieces, literalText]
      rfl
  | .record (field :: fields) => by
      rw [pieces, literalText, List.cons_append, List.flatMap_cons, List.flatMap_append,
        flatMap_text_piecesOfFields]
      rfl

theorem flatMap_text_piecesOfItems (first : Bool) : (items : List Value) →
    (piecesOfItems first items).flatMap Piece.text = itemsText first items
  | [] => rfl
  | item :: items => by
      rw [piecesOfItems, itemsText, List.flatMap_append, List.flatMap_append, text_separators,
        flatMap_text_pieces item, flatMap_text_piecesOfItems false items]

theorem flatMap_text_piecesOfFields (first : Bool) : (fields : List (String × Value)) →
    (piecesOfFields first fields).flatMap Piece.text = fieldsText first fields
  | [] => rfl
  | (label, value) :: fields => by
      rw [piecesOfFields, fieldsText, List.flatMap_append, List.flatMap_append, List.flatMap_append,
        text_separators, flatMap_text_pieces value, flatMap_text_piecesOfFields false fields]
      simp [Piece.text]

end

mutual

theorem filterMap_label?_pieces : (v : Value) → v.pieces.filterMap Piece.label? = v.labels
  | .scalar leaf => by rw [pieces, labels]; rfl
  | .sequence items => by
      rw [pieces, labels, List.cons_append, List.filterMap_cons_none rfl, List.filterMap_append,
        filterMap_label?_piecesOfItems]
      exact List.append_nil _
  | .record [] => by rw [pieces, labels]; rfl
  | .record (field :: fields) => by
      rw [pieces, labels, List.cons_append, List.filterMap_cons_none rfl, List.filterMap_append,
        filterMap_label?_piecesOfFields]
      exact List.append_nil _

theorem filterMap_label?_piecesOfItems (first : Bool) : (items : List Value) →
    (piecesOfItems first items).filterMap Piece.label? = labelsOfItems items
  | [] => rfl
  | item :: items => by
      rw [piecesOfItems, labelsOfItems, List.filterMap_append, List.filterMap_append, label?_separators,
        filterMap_label?_pieces item, filterMap_label?_piecesOfItems false items, List.nil_append]

theorem filterMap_label?_piecesOfFields (first : Bool) : (fields : List (String × Value)) →
    (piecesOfFields first fields).filterMap Piece.label? = labelsOfFields fields
  | [] => rfl
  | (label, value) :: fields => by
      rw [piecesOfFields, labelsOfFields, List.filterMap_append, List.filterMap_append, List.filterMap_append,
        label?_separators, filterMap_label?_pieces value, filterMap_label?_piecesOfFields false fields]
      rfl

end

/-! ## Rendering -/

/-- What a value is rendered to is made up of pieces, and among them each label of the shaped value is written
    in one of two ways: bare, and then it is the name of an identifier just if it has no stray; or as a string
    that reads as the label. -/
theorem render_labels (v : Value) (names : List String) (asRecord : Bool) :
    (v.render names asRecord).toList = (v.shaped names asRecord).pieces.flatMap Piece.text ∧
    (v.shaped names asRecord).pieces.filterMap Piece.label? = (v.shaped names asRecord).labels ∧
    ∀ label ∈ (v.shaped names asRecord).labels,
      ((Piece.label label).text = label.toList ∧
        (isIdentifierName label.toList = true ↔ ∀ c ∈ label.toList, isStray c = false)) ∨
      ((Piece.label label).text = Json.quoted label.toList ∧
        Listing.LeafMeans (Piece.label label).text (.str label)) := by
  refine ⟨?_, filterMap_label?_pieces _, fun label _ => ?_⟩
  · rw [render, literal, String.toList_ofList, flatMap_text_pieces]
  · cases hbare : isBareLabel label.toList with
    | true =>
        left
        refine ⟨?_, isIdentifierName_iff_of_isBareLabel hbare⟩
        rw [Piece.text, labelText, if_pos hbare]
    | false =>
        right
        have htext : (Piece.label label).text = Json.quoted label.toList := labelText_of_not_isBareLabel hbare
        exact ⟨htext, htext ▸ Listing.leafMeans_quoted label⟩

/-- A label with a raised digit stands bare, although it is no name: the digit is a stray. -/
theorem render_labels_raised :
    "x²" ∈ ((record [("x²", .scalar (.int 1))]).shaped [] false).labels ∧
      (Piece.label "x²").text = "x²".toList ∧ isIdentifierName "x²".toList = false := by
  have hlabel : "x²" ∈ ((record [("x²", .scalar (.int 1))]).shaped [] false).labels := List.mem_cons_self
  refine ⟨hlabel, ?_⟩
  rcases (render_labels (record [("x²", .scalar (.int 1))]) [] false).2.2 "x²" hlabel with h | h
  · obtain ⟨htext, hname⟩ := h
    have hstray : isStray '²' = true := by decide +kernel
    refine ⟨htext, Bool.eq_false_iff.2 fun h => ?_⟩
    have hclean := hname.1 h '²' (by decide)
    exact absurd (hclean.symm.trans hstray) Bool.false_ne_true
  · exact absurd h.1 (by decide +kernel)

end Value

end CodeBlock
