import CodeBlock.Execution
import CodeBlock.Proofs.Table
import CodeBlock.Proofs.Value.Unambiguous

set_option autoImplicit false

/-! # Data is confined to its literal

What a variable is bound to changes the script at one place: where its literal stands. Two blocks that
differ only in the value and the field names of one variable have scripts that are the same before that
literal and after it, and since no literal holds a line end, the scripts have as many lines and differ in
one of them at most. -/

namespace CodeBlock

/-! ## Lines -/

namespace Text

/-- The separator ends the first piece. -/
theorem splitAll_cons_self {c : Char} {s piece : List Char} {pieces : List (List Char)}
    (h : splitAll c s = piece :: pieces) : splitAll c (c :: s) = [] :: piece :: pieces := by
  simp [List.splitOn_cons_eq_if_modifyHead, h]

/-- Any other character goes to the first piece. -/
theorem splitAll_cons_ne {c d : Char} (hd : d ≠ c) {s piece : List Char} {pieces : List (List Char)}
    (h : splitAll c s = piece :: pieces) : splitAll c (d :: s) = (d :: piece) :: pieces := by
  simp [List.splitOn_cons_eq_if_modifyHead, h, hd]

/-- The pieces of two texts together: those of the first one up to its last, which is joined with the first
    one of the second text. -/
theorem exists_splitAll_append (c : Char) (s : List Char) :
    ∃ front last, ∀ {t piece : List Char} {pieces : List (List Char)},
      splitAll c t = piece :: pieces → splitAll c (s ++ t) = front ++ (last ++ piece) :: pieces := by
  induction s with
  | nil => exact ⟨[], [], fun h => h⟩
  | cons d s ih =>
      obtain ⟨front, last, hs⟩ := ih
      -- a separator starts a piece anew, any other character goes to the piece that is open behind it
      by_cases hd : d = c
      · subst hd
        refine ⟨[] :: front, last, fun h => ?_⟩
        cases front with
        | nil => exact splitAll_cons_self (hs h)
        | cons first front => exact splitAll_cons_self (hs h)
      · cases front with
        | nil => exact ⟨[], d :: last, fun h => splitAll_cons_ne hd (hs h)⟩
        | cons first front => exact ⟨(d :: first) :: front, last, fun h => splitAll_cons_ne hd (hs h)⟩

/-- A text without the separator lengthens the first piece. -/
theorem splitAll_append_of_notMem {c : Char} {s t piece : List Char} {pieces : List (List Char)}
    (hs : c ∉ s) (ht : splitAll c t = piece :: pieces) :
    splitAll c (s ++ t) = (s ++ piece) :: pieces := by
  induction s with
  | nil => exact ht
  | cons d s ih =>
      rw [List.mem_cons, not_or] at hs
      exact splitAll_cons_ne (Ne.symm hs.1) (ih hs.2)

def SameLinesButOne (s t : List Char) : Prop :=
  (splitAll '\n' s).length = (splitAll '\n' t).length ∧
    ∃ k : Nat, ∀ i : Nat, i ≠ k → (splitAll '\n' s)[i]? = (splitAll '\n' t)[i]?

/-- Texts without line ends in the same place change one line at most. -/
theorem sameLinesButOne_of_notMem {s t : List Char} (hs : '\n' ∉ s) (ht : '\n' ∉ t)
    (before after : List Char) :
    SameLinesButOne (before ++ s ++ after) (before ++ t ++ after) := by
  obtain ⟨front, last, hbefore⟩ := exists_splitAll_append '\n' before
  obtain ⟨piece, pieces, hafter⟩ := List.exists_cons_of_ne_nil (List.splitOn_ne_nil '\n' after)
  have hlines : ∀ {u : List Char}, '\n' ∉ u →
      splitAll '\n' (before ++ u ++ after) = front ++ (last ++ (u ++ piece)) :: pieces := by
    intro u hu
    rw [List.append_assoc, hbefore (splitAll_append_of_notMem hu hafter)]
  rw [SameLinesButOne, hlines hs, hlines ht]
  refine ⟨by simp, front.length, fun i hi => ?_⟩
  rcases Nat.lt_or_gt_of_ne hi with hlt | hgt
  · rw [List.getElem?_append_left hlt, List.getElem?_append_left hlt]
  · rw [List.getElem?_append_right hgt.le, List.getElem?_append_right hgt.le]
    obtain ⟨k, hk⟩ := Nat.exists_eq_add_of_lt hgt
    rw [hk, Nat.add_assoc, Nat.add_sub_cancel_left, List.getElem?_cons_succ, List.getElem?_cons_succ]

end Text

/-! ## Literals -/

theorem Scalar.newline_notMem_literalText (leaf : Scalar) : '\n' ∉ leaf.literalText :=
  Text.notMem_replaceChar (by decide) _

/-- No label is written with a line end. -/
theorem newline_notMem_labelText (label : List Char) : '\n' ∉ labelText label := by
  rw [labelText]
  split
  · rename_i hbare
    intro hmem
    exact absurd ((isLabelChar_of_isBareLabel hbare).1 _ hmem) (by decide +kernel)
  · exact Scalar.newline_notMem_literalText _

namespace Value

mutual

/-- No value is written with a line end. -/
theorem newline_notMem_literalText : (v : Value) → '\n' ∉ v.literalText
  | .scalar leaf => by
      rw [literalText]
      exact leaf.newline_notMem_literalText
  | .sequence items => by
      simp [literalText, newline_notMem_itemsText true items]
  | .record [] => by
      simp [literalText]
  | .record (field :: fields) => by
      simp [literalText, newline_notMem_fieldsText true (field :: fields)]

/-- No row of elements is written with a line end. -/
theorem newline_notMem_itemsText (first : Bool) : (items : List Value) → '\n' ∉ itemsText first items
  | [] => by simp [itemsText]
  | item :: items => by
      cases first <;>
        simp [itemsText, newline_notMem_literalText item, newline_notMem_itemsText false items]

/-- No row of fields is written with a line end. -/
theorem newline_notMem_fieldsText (first : Bool) :
    (fields : List (String × Value)) → '\n' ∉ fieldsText first fields
  | [] => by simp [fieldsText]
  | (label, value) :: fields => by
      cases first <;>
        simp [fieldsText, newline_notMem_labelText, newline_notMem_literalText value,
          newline_notMem_fieldsText false fields]

end

/-- No literal has a line end in it. -/
theorem newline_notMem_literal (v : Value) : '\n' ∉ v.literal.toList := by
  rw [literal, String.toList_ofList]
  exact v.newline_notMem_literalText

end Value

/-! ## Scripts -/

namespace Script

theorem lineBreakAfter_append {s : List Char} (hs : s ≠ []) (before : List Char) :
    lineBreakAfter (before ++ s) = lineBreakAfter s := by
  rw [lineBreakAfter, lineBreakAfter, List.getLast?_append_of_ne_nil _ hs]

theorem exists_textBy_eq_append (read : List Char → List Snippet.Tree) (s : Script)
    (before after : List (List Char)) :
    ∃ start rest, ∀ declaration : List Char,
      textBy read { s with declarations := before ++ declaration :: after } =
        start ++ declaration ++ rest := by
  let start := (if s.imports.isEmpty then [] else onLines s.imports) ++ ['\n'] ++ before.flatMap onLines
  let rest := '\n' :: (after.flatMap onLines ++ (s.prologue.map onLines).getD [] ++ s.wrappedBodyBy read)
  have htext : ∀ declaration : List Char,
      head { s with declarations := before ++ declaration :: after } ++ s.wrappedBodyBy read =
        start ++ declaration ++ rest := by
    intro declaration
    simp [head, start, rest, onLines]
  obtain ⟨imports, declarations, prologue, body, epilogue, wrapped⟩ := s
  cases epilogue with
  | none => exact ⟨start, rest, htext⟩
  | some epilogue =>
      -- the line break before the epilogue goes by the end of the text, and no declaration stands there
      refine ⟨start, rest ++ lineBreakAfter rest ++ epilogue, fun declaration => ?_⟩
      have hbreak := lineBreakAfter_append (List.cons_ne_nil _ _ : rest ≠ []) (start ++ declaration)
      rw [← htext declaration] at hbreak
      change _ ++ lineBreakAfter (_ ++ _) ++ epilogue = _
      rw [← List.append_assoc, ← List.append_assoc, ← htext declaration]
      exact congrArg (fun b => _ ++ b ++ epilogue) hbreak

end Script

/-! ## Bindings -/

namespace Parameters

def binding? (p : Parameters) (name : String) : Option Binding :=
  (Table.get? name p.vars).map fun value => Binding.of name (Value.ofJson value) (p.fieldNames name)

/-- The bindings, variable by variable. -/
theorem bindings_eq_filterMap {p : Parameters} (h : Table.IsDistinct p.vars) :
    p.bindings = (p.vars.map Prod.fst).filterMap p.binding? := by
  conv_lhs => rw [bindings, ← h.filterMap_get?, List.map_filterMap]
  refine List.filterMap_congr fun name _ => ?_
  simp [binding?, Function.comp_def]

/-- Parameters that differ in one variable at most: in its value, in its field names or in both. -/
structure SameBut (name : String) (p q : Parameters) : Prop where
  others : q = { p with vars := q.vars, columnNames := q.columnNames }
  names : q.vars.map Prod.fst = p.vars.map Prod.fst
  values : ∀ other, other ≠ name → Table.get? other q.vars = Table.get? other p.vars
  columnNames : ∀ other, other ≠ name →
    Table.get? other q.columnNames = Table.get? other p.columnNames

theorem sameBut_put (p : Parameters) {name : String} (value : Json) (fieldNames : List String)
    (h : name ∈ p.vars.map Prod.fst) :
    SameBut name p { p with
      vars := Table.put name value p.vars
      columnNames := Table.put name fieldNames p.columnNames } where
  others := rfl
  names := Table.map_fst_put value h
  values _ hother := Table.get?_put_ne hother value p.vars
  columnNames _ hother := Table.get?_put_ne hother fieldNames p.columnNames

namespace SameBut

variable {name : String} {p q : Parameters}

/-- Both have each variable once if one has. -/
theorem isDistinct (same : SameBut name p q) (h : Table.IsDistinct p.vars) : Table.IsDistinct q.vars := by
  rw [Table.IsDistinct, same.names]
  exact h

/-- The other variables have the same bindings. -/
theorem binding?_eq (same : SameBut name p q) {other : String} (h : other ≠ name) :
    q.binding? other = p.binding? other := by
  rw [binding?, binding?, same.values other h, fieldNames, fieldNames, same.columnNames other h]

theorem exists_bindings_eq (same : SameBut name p q) (hdistinct : Table.IsDistinct p.vars)
    (hname : name ∈ p.vars.map Prod.fst) :
    ∃ before after b c, p.bindings = before ++ b :: after ∧ q.bindings = before ++ c :: after ∧
      b.name = name ∧ c.name = name := by
  have hp := bindings_eq_filterMap hdistinct
  have hq := bindings_eq_filterMap (same.isDistinct hdistinct)
  obtain ⟨v, hv⟩ := Table.exists_get?_of_mem hname
  obtain ⟨w, hw⟩ := Table.exists_get?_of_mem (same.names ▸ hname)
  obtain ⟨front, rear, hsplit⟩ := List.append_of_mem hname
  rw [same.names] at hq
  rw [hsplit] at hp hq
  rw [Table.IsDistinct, hsplit] at hdistinct
  -- a name is there once, so what is around it has other names
  have hout : name ∉ front ++ rear := (List.nodup_cons.1 (List.perm_middle.nodup_iff.1 hdistinct)).1
  have hrest : ∀ {others : List String}, others ⊆ front ++ rear →
      others.filterMap q.binding? = others.filterMap p.binding? := fun hsub =>
    List.filterMap_congr fun other hother =>
      same.binding?_eq fun heq => hout (heq ▸ hsub hother)
  refine ⟨front.filterMap p.binding?, rear.filterMap p.binding?,
    Binding.of name (Value.ofJson v) (p.fieldNames name),
    Binding.of name (Value.ofJson w) (q.fieldNames name), ?_, ?_, rfl, rfl⟩
  · rw [hp, List.filterMap_append, List.filterMap_cons_some (by rw [binding?, hv]; rfl)]
  · rw [hq, List.filterMap_append, List.filterMap_cons_some (by rw [binding?, hw]; rfl),
      hrest (List.subset_append_left _ _), hrest (List.subset_append_right _ _)]

end SameBut

end Parameters

open Parameters

theorem Binding.exists_declaration_eq (keyword : Keyword) (name : String) :
    ∃ before after : List Char, ∀ b : Binding, b.name = name →
      (b.declaration keyword).toList = before ++ b.value.literal.toList ++ after := by
  refine ⟨(keyword.word ++ " " ++ name ++ " = ").toList, [';'], fun b hb => ?_⟩
  rw [Binding.declaration, hb]
  simp

theorem Script.exists_textBy_bindings_eq (read : List Char → List Snippet.Tree) (s : Script)
    (keyword : Keyword) (front rear : List Binding) (name : String) :
    ∃ before after : String, ∀ b : Binding, b.name = name →
      String.ofList (textBy read { s with
        declarations := (front ++ b :: rear).map fun b => (b.declaration keyword).toList }) =
        before ++ b.value.literal ++ after := by
  obtain ⟨opening, closing, hdeclaration⟩ := Binding.exists_declaration_eq keyword name
  obtain ⟨start, rest, htext⟩ := exists_textBy_eq_append read s
    (front.map fun b => (b.declaration keyword).toList)
    (rear.map fun b => (b.declaration keyword).toList)
  refine ⟨String.ofList (start ++ opening), String.ofList (closing ++ rest), fun b hb => ?_⟩
  rw [List.map_append, List.map_cons, htext, hdeclaration b hb]
  apply String.toList_injective
  simp

/-- The script of a block changes with the value and the field names of a variable only at the literal of the
    variable, and literals stand on one line. -/
theorem expandBy_confined (read : List Char → List Snippet.Tree) {name : String} {p q : Parameters}
    (same : SameBut name p q) (hdistinct : Table.IsDistinct p.vars) (hname : name ∈ p.vars.map Prod.fst)
    (snippet : String) (settings : Settings) :
    (∃ fault, expandBy read p snippet settings = .error fault ∧
      expandBy read q snippet settings = .error fault) ∨
      ∃ b ∈ p.bindings, ∃ c ∈ q.bindings, b.name = name ∧ c.name = name ∧
        ∃ before after : String,
          expandBy read p snippet settings = .ok (before ++ b.value.literal ++ after) ∧
          expandBy read q snippet settings = .ok (before ++ c.value.literal ++ after) ∧
          '\n' ∉ b.value.literal.toList ∧ '\n' ∉ c.value.literal.toList ∧
          Text.SameLinesButOne (before ++ b.value.literal ++ after).toList
            (before ++ c.value.literal ++ after).toList := by
  -- neither the check nor the keyword depends on the variables
  have hvalidate : q.validate = p.validate := by rw [same.others]; rfl
  have hkeyword : q.declarationKeyword settings = p.declarationKeyword settings := by
    rw [same.others]; rfl
  have hscript : ∀ keyword, scriptBy read q keyword snippet.toList =
      { scriptBy read p keyword snippet.toList with
        declarations := q.bindings.map fun b => (b.declaration keyword).toList } := by
    intro keyword
    rw [same.others]; rfl
  simp only [expandBy, hvalidate, hkeyword]
  cases hvalid : p.validate with
  | error fault => exact .inl ⟨fault, rfl, rfl⟩
  | ok _ =>
      cases hword : p.declarationKeyword settings with
      | error fault => exact .inl ⟨fault, rfl, rfl⟩
      | ok keyword =>
          obtain ⟨front, rear, b, c, hp, hq, hb, hc⟩ := same.exists_bindings_eq hdistinct hname
          obtain ⟨before, after, htext⟩ := Script.exists_textBy_bindings_eq read
            (scriptBy read p keyword snippet.toList) keyword front rear name
          have hlines := b.value.newline_notMem_literal
          have hlines' := c.value.newline_notMem_literal
          refine .inr ⟨b, by simp [hp], c, by simp [hq], hb, hc, before, after, ?_, ?_, hlines, hlines', ?_⟩
          · rw [← htext b hb, ← hp]
            rfl
          · rw [← htext c hc, ← hq, ← hscript keyword]
            rfl
          · simpa using Text.sameLinesButOne_of_notMem hlines hlines' before.toList after.toList

/-- A row of numbers and a record of a text with a line end, under the same name. -/
theorem expandBy_confined_row :
    ∃ before after : String,
      expand { Parameters.none with
          vars := [("k", .integer 1), ("x", .array [.integer 1, .integer 2])] } "k" default =
        .ok (before ++ "[1, 2]" ++ after) ∧
      expand { Parameters.none with
          vars := [("k", .integer 1), ("x", .array [.string "two\nlines"])]
          columnNames := [("x", ["first name"])] } "k" default =
        .ok (before ++ "\x7b firstName: \"two\\nlines\" \x7d" ++ after) := by
  have hsame : SameBut "x"
      { Parameters.none with vars := [("k", .integer 1), ("x", .array [.integer 1, .integer 2])] }
      { Parameters.none with
        vars := [("k", .integer 1), ("x", .array [.string "two\nlines"])]
        columnNames := [("x", ["first name"])] } :=
    sameBut_put _ (.array [.string "two\nlines"]) ["first name"] (by decide)
  rcases expandBy_confined Snippet.topNodes hsame (by decide) (by decide) "k" default with
    ⟨fault, h, -⟩ | ⟨b, hb, c, hc, hbn, hcn, before, after, hp, hq, -, -, -⟩
  · cases h
  · refine ⟨before, after, ?_, ?_⟩
    · obtain rfl | rfl := List.mem_pair.1 hb
      · exact absurd hbn (by decide)
      · refine hp.trans (congrArg (fun literal => Except.ok (before ++ literal ++ after)) ?_)
        decide +kernel
    · obtain rfl | rfl := List.mem_pair.1 hc
      · exact absurd hcn (by decide)
      · refine hq.trans (congrArg (fun literal => Except.ok (before ++ literal ++ after)) ?_)
        decide +kernel

end CodeBlock
