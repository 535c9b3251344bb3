import CodeBlock.Proofs.Json.Readers
import CodeBlock.Proofs.Table

set_option autoImplicit false

/-! # Proper JSON

All JSON that is read from a text is proper: a word of 64 bits, with a sign or without, holds each whole number
in it, and no object has a key twice. Digits that no longer fit into a word make a number a float, and so does
a sign that leaves too little room; an object is a table, in which the last value of a key is kept. -/

namespace CodeBlock

/-- What holds of all values that are put into a table holds of all values in it. -/
theorem Table.forall_of_mem_ofEntries {α : Type} {P : α → Prop} {entries : List (String × α)}
    (h : ∀ entry ∈ entries, P entry.2) : ∀ entry ∈ ofEntries entries, P entry.2 := by
  have hput : ∀ (key : String) (value : α) (table : List (String × α)), P value →
      (∀ entry ∈ table, P entry.2) → ∀ entry ∈ put key value table, P entry.2 := by
    intro key value table hvalue htable
    induction table with
    | nil => simpa [put] using hvalue
    | cons entry rest ih =>
        rw [List.forall_mem_cons] at htable
        rw [put]
        split_ifs with hkey
        · exact List.forall_mem_cons.2 ⟨hvalue, htable.2⟩
        · exact List.forall_mem_cons.2 ⟨htable.1, ih htable.2⟩
  induction entries using List.reverseRecOn with
  | nil => simp [ofEntries]
  | append_singleton entries entry ih =>
      rw [List.forall_mem_append] at h
      rw [ofEntries, List.foldl_append, List.foldl_cons, List.foldl_nil]
      exact hput _ _ _ (h.2 entry List.mem_cons_self) (ih h.1)

namespace Json

/-- JSON in which a word of 64 bits, with a sign or without, holds each whole number, and each object has each
    key once. -/
inductive IsProper : Json → Prop
  | null : IsProper .null
  | bool {b : Bool} : IsProper (.bool b)
  | integer {i : Int} : -2 ^ 63 ≤ i → i < 2 ^ 64 → IsProper (.integer i)
  | float {x : Binary64.Finite} : IsProper (.float x)
  | string {text : String} : IsProper (.string text)
  | array {items : List Json} : (∀ item ∈ items, IsProper item) → IsProper (.array items)
  | object {members : List (String × Json)} :
      Table.IsDistinct members → (∀ member ∈ members, IsProper member.2) → IsProper (.object members)

/-! ## What is read is proper -/

theorem ReadsNumber.isProper {positive : Bool} {number : List Char} {j : Json}
    (h : ReadsNumber positive number j) : j.IsProper := by
  rcases isDigits_of_readNumber (h.reads endsValue_nil) with ⟨x, rfl⟩ | ⟨_, i, -, -, -, hmin, hmax, rfl⟩
  · exact .float
  · exact .integer hmin hmax

/-- An array is proper if all that is in it is, and so is an object, whose table has no key twice. -/
theorem isMeaning_isProper : IsMeaning fun _ _ j => j.IsProper where
  null := .null
  yes := .bool
  no := .bool
  positive hnumber := hnumber.isProper
  negative hnumber := hnumber.isProper
  string _ := .string
  array _ hrow := .array hrow.forall_mem
  object _ hrow := .object (Table.isDistinct_ofEntries _) (Table.forall_of_mem_ofEntries hrow.forall_mem)

/-- Whatever a text denotes is proper. -/
theorem isProper_of_ofText {s : List Char} {j : Json} (h : ofText s = .ok j) : j.IsProper := by
  obtain ⟨before, item, after, -, -, hproper, -⟩ := isMeaning_isProper.exists_of_ofText h
  exact hproper

end Json

end CodeBlock
