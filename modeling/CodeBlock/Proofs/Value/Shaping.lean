import CodeBlock.Proofs.Value.Rendering

set_option autoImplicit false

/-! # Shapes are decided once

Names reach the two outermost levels of a value and no further: what becomes part of a record is shaped without
names, and that changes nothing (`shaped_nil`). So a value is shaped in one of three ways, and a value with its
shape decided, which is a leaf or a record, keeps it whatever names come later. -/

namespace CodeBlock.Value

/-! ## Without names -/

mutual

theorem shaped_nil (asRecord : Bool) : (v : Value) → v.shaped [] asRecord = v
  | .scalar leaf => by rw [shaped]
  | .sequence items => by
      -- the names are missing, so the flag has no say, and the elements are shaped without it
      rw [shaped, if_neg (by simp)]
      exact congrArg sequence (shapedItems_nil false items)
  | .record fields => by
      rw [shaped]
      exact congrArg record (shapedFields_eq_self fields)

/-- So do the elements of a sequence. -/
theorem shapedItems_nil (asRecord : Bool) : (items : List Value) → shapedItems [] asRecord items = items
  | [] => rfl
  | item :: items => by rw [shapedItems, shaped_nil asRecord item, shapedItems_nil asRecord items]

/-- Fields keep their form, for names do not reach them. -/
theorem shapedFields_eq_self : (fields : List (String × Value)) → shapedFields fields = fields
  | [] => rfl
  | (label, value) :: fields => by rw [shapedFields, shaped_nil false value, shapedFields_eq_self fields]

end

/-! ## With names -/

/-- A record keeps its form. -/
theorem shaped_record (names : List String) (asRecord : Bool) (fields : List (String × Value)) :
    (record fields).shaped names asRecord = record fields := by
  rw [shaped, shapedFields_eq_self]

theorem shaped_sequence_true {names : List String} (hnames : names ≠ []) (items : List Value) :
    (sequence items).shaped names true = record ((names.map Text.lowerCamel).zip items) := by
  have hitems : (items.map fun item => item.shaped [] false) = items := by
    simp only [shaped_nil, List.map_id_fun', id]
  rw [shaped, if_pos (by simpa using hnames), zipped_eq_zip, hitems]

theorem shaped_sequence_false {names : List String} (hnames : names ≠ []) (items : List Value) :
    (sequence items).shaped names false = sequence (items.map fun item => item.shaped names true) := by
  have hflag : (!names.isEmpty) = true := by simpa using hnames
  rw [shaped, if_neg (by simp), hflag, shapedItems_eq_map]

/-- A value that was to be a record if it can has its shape decided. -/
theorem shaped_shaped_true {names : List String} (hnames : names ≠ []) (v : Value) (others : List String)
    (asRecord : Bool) : (v.shaped names true).shaped others asRecord = v.shaped names true := by
  cases v with
  | scalar leaf => rw [shaped, shaped]
  | sequence items => rw [shaped_sequence_true hnames, shaped_record]
  | record fields => rw [shaped_record, shaped_record]

/-! ## Once and for all -/

/-- The shape of a value is decided once. Without names there is nothing to decide; the same names decide
    nothing new; and with names and the flag, as a binding has them, no other names change it. -/
theorem shaped_decided (v : Value) (names others : List String) (asRecord flag : Bool) :
    v.shaped [] asRecord = v ∧
      (v.shaped names asRecord).shaped names asRecord = v.shaped names asRecord ∧
      (names ≠ [] →
        (v.shaped names true).shaped others flag = v.shaped names true ∧
          ∀ name : String,
            (Binding.of name v names).value.shaped others flag = (Binding.of name v names).value) := by
  refine ⟨shaped_nil asRecord v, ?_,
    fun hnames => ⟨shaped_shaped_true hnames v others flag, fun name => ?_⟩⟩
  · by_cases hnames : names = []
    · rw [hnames, shaped_nil, shaped_nil]
    cases asRecord with
    | true => exact shaped_shaped_true hnames v names true
    | false =>
        cases v with
        | scalar leaf => rw [shaped, shaped]
        | record fields => rw [shaped_record, shaped_record]
        | sequence items =>
            -- each element has its shape decided the first time
            rw [shaped_sequence_false hnames, shaped_sequence_false hnames, List.map_map]
            have hitem : ∀ item ∈ items, ((fun item => item.shaped names true) ∘
                fun item : Value => item.shaped names true) item = item.shaped names true :=
              fun item _ => shaped_shaped_true hnames item names true
            rw [List.map_congr_left hitem]
  · have hflag : (!names.isEmpty) = true := by simpa using hnames
    show (v.shaped names (!names.isEmpty)).shaped others flag = v.shaped names (!names.isEmpty)
    rw [hflag, shaped_shaped_true hnames]

/-- Rows of unequal length, with names for two columns: other names for three come too late. -/
theorem shaped_decided_rows :
    (["a", "b"] : List String) ≠ [] ∧
      ((sequence [.scalar (.int 1), sequence [], .scalar (.int 3)]).shaped ["a", "b"] true).shaped
          ["x", "y", "z"] true =
        record [("a", .scalar (.int 1)), ("b", sequence [])] := by
  have hnames : (["a", "b"] : List String) ≠ [] := by decide
  refine ⟨hnames, ?_⟩
  rw [((shaped_decided (sequence [.scalar (.int 1), sequence [], .scalar (.int 3)]) ["a", "b"] ["x", "y", "z"]
    true true).2.2 hnames).1, shaped_sequence_true hnames]
  have ha : Text.lowerCamel "a" = "a" := by decide +kernel
  have hb : Text.lowerCamel "b" = "b" := by decide +kernel
  rw [List.map_cons, List.map_cons, ha, hb]
  rfl

end CodeBlock.Value
