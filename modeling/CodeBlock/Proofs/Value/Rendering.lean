import CodeBlock.Binding
import Mathlib.Data.List.Basic

set_option autoImplicit false

/-! # Rendering in one pass

A value is rendered in two steps: field names decide its form, and the value that comes of it is written. The
same text comes of one pass that writes the value as it is, with the names and the flag going down along with
it. They are other ones at each level, so what is said by induction is said for all names and both flags. -/

namespace CodeBlock

namespace Value

/-! ## One pass -/

/-- Texts in brackets, with separators between them. -/
def bracketed (texts : List String) : String := "[" ++ String.intercalate ", " texts ++ "]"

def labelled (part : String × String) : String :=
  String.ofList (labelText part.1.toList) ++ ": " ++ part.2

/-- Labelled texts in braces, with separators between them. -/
def braced (parts : List (String × String)) : String :=
  if parts.isEmpty then "\x7b\x7d"
  else "\x7b " ++ String.intercalate ", " (parts.map labelled) ++ " \x7d"

/-- The text of a value, written as it goes: a sequence that is a record of the names pairs them with its
    elements, as far as both lists go; any other one hands the names on. -/
def written (names : List String) (asRecord : Bool) : Value → String
  | .scalar leaf => leaf.literal
  | .sequence items =>
      if asRecord && !names.isEmpty then
        braced ((names.map Text.lowerCamel).zip (items.map fun item => item.written [] false))
      else bracketed (items.map fun item => item.written names (!names.isEmpty))
  | .record fields => braced (fields.map fun field => (field.1, field.2.written [] false))
termination_by value => sizeOf value
decreasing_by
  · rename_i hitem
    have hsize := List.sizeOf_lt_of_mem hitem
    rw [sequence.sizeOf_spec]
    omega
  · rename_i hitem
    have hsize := List.sizeOf_lt_of_mem hitem
    rw [sequence.sizeOf_spec]
    omega
  · rename_i hfield
    have hsize := List.sizeOf_lt_of_mem hfield
    have hvalue : sizeOf field = 1 + sizeOf field.1 + sizeOf field.2 := rfl
    rw [record.sizeOf_spec]
    omega

/-! ## Writing -/

/-- What is written with a separator before each piece but the first has separators between the pieces. -/
theorem eq_intercalate_of_separated {α : Type} {row : Bool → List α → List Char} {piece : α → List Char}
    (hnil : ∀ first, row first [] = [])
    (hcons : ∀ first x xs,
      row first (x :: xs) = (if first then [] else [',', ' ']) ++ piece x ++ row false xs)
    (xs : List α) : row true xs = [',', ' '].intercalate (xs.map piece) := by
  cases xs with
  | nil => exact hnil true
  | cons x xs =>
      induction xs generalizing x with
      | nil => simp [hcons, hnil]
      | cons y xs ih =>
          have hrest := ih y
          rw [List.map_cons] at hrest
          rw [List.map_cons, List.map_cons, List.intercalate_cons_cons, ← hrest, hcons true, hcons false,
            hcons true]
          simp

/-- A row of elements. -/
theorem itemsText_true (items : List Value) :
    itemsText true items = [',', ' '].intercalate (items.map literalText) :=
  eq_intercalate_of_separated (fun _ => by rw [itemsText]) (fun _ _ _ => by rw [itemsText]) items

theorem fieldsText_true (fields : List (String × Value)) :
    fieldsText true fields = [',', ' '].intercalate
      (fields.map fun field => labelText field.1.toList ++ [':', ' '] ++ field.2.literalText) :=
  eq_intercalate_of_separated (fun _ => by rw [fieldsText])
    (fun _ _ _ => by simp [fieldsText]) fields

/-- A sequence is written by writing its elements. -/
theorem literal_sequence (items : List Value) :
    (sequence items).literal = bracketed (items.map literal) := by
  have hitems : (items.map literal).map String.toList = items.map literalText := by
    simp [literal, Function.comp_def]
  rw [← String.toList_inj, literal, String.toList_ofList, literalText, itemsText_true, bracketed,
    String.toList_append, String.toList_append, String.toList_intercalate, hitems]
  rfl

theorem literal_record (fields : List (String × Value)) :
    (record fields).literal = braced (fields.map fun field => (field.1, field.2.literal)) := by
  cases fields with
  | nil => rfl
  | cons field fields =>
      have hfields : (((field :: fields).map fun field => (field.1, field.2.literal)).map labelled).map
          String.toList = (field :: fields).map fun field =>
            labelText field.1.toList ++ [':', ' '] ++ field.2.literalText := by
        simp [labelled, literal, Function.comp_def]
      rw [← String.toList_inj, literal, String.toList_ofList, literalText, fieldsText_true, braced,
        if_neg (by simp), String.toList_append, String.toList_append, String.toList_intercalate, hfields]
      rfl

/-! ## Shaping -/

theorem shapedItems_eq_map (names : List String) (asRecord : Bool) (items : List Value) :
    shapedItems names asRecord items = items.map fun item => item.shaped names asRecord := by
  induction items with
  | nil => rfl
  | cons item items ih => rw [shapedItems, ih, List.map_cons]

theorem shapedFields_eq_map (fields : List (String × Value)) :
    shapedFields fields = fields.map fun field => (field.1, field.2.shaped [] false) := by
  induction fields with
  | nil => rfl
  | cons field fields ih => rw [shapedFields, ih, List.map_cons]

theorem zipped_eq_zip (names : List String) (items : List Value) :
    zipped names items =
      (names.map Text.lowerCamel).zip (items.map fun item => item.shaped [] false) := by
  induction items generalizing names with
  | nil => simp [zipped]
  | cons item items ih =>
      cases names with
      | nil => simp [zipped]
      | cons name names => rw [zipped, ih, List.map_cons, List.map_cons, List.zip_cons_cons]

/-! ## Both -/

/-- Writing the value in the form that the names decide comes to the one pass. -/
theorem literal_shaped (names : List String) (asRecord : Bool) (v : Value) :
    (v.shaped names asRecord).literal = v.written names asRecord := by
  induction names, asRecord, v using written.induct with
  | case1 names asRecord leaf => rw [shaped, written]; rfl
  | case2 names asRecord items hrecord ih =>
      rw [shaped, if_pos hrecord, literal_record, zipped_eq_zip, written, if_pos hrecord]
      refine congrArg braced ?_
      rw [← List.map_congr_left ih, List.zip_map_right, List.zip_map_right, List.map_map]
      rfl
  | case3 names asRecord items hplain ih =>
      rw [shaped, if_neg hplain, literal_sequence, shapedItems_eq_map, written, if_neg hplain, List.map_map]
      exact congrArg bracketed (List.map_congr_left ih)
  | case4 names asRecord fields ih =>
      rw [shaped, literal_record, shapedFields_eq_map, written, List.map_map]
      exact congrArg braced (List.map_congr_left fun field hfield => congrArg _ (ih field hfield))

/-- Rendering comes to the one pass, and the declaration of a binding holds what its value is rendered to, as
    a record if there are names at all. -/
theorem render_eq_written (v : Value) (names : List String) (asRecord : Bool) :
    v.render names asRecord = v.written names asRecord ∧
      ∀ (name : String) (keyword : Keyword),
        (Binding.of name v names).declaration keyword =
          keyword.word ++ " " ++ name ++ " = " ++ v.render names (!names.isEmpty) ++ ";" :=
  ⟨literal_shaped names asRecord v, fun _ _ => rfl⟩

example : render (sequence [sequence [.scalar (.int 1), .scalar (.str "a\nb")], .scalar (.bool true)])
    ["first name", "x"] true = "\x7b firstName: [1, \"a\\nb\"], x: true \x7d" := by
  decide +kernel

end Value

end CodeBlock
