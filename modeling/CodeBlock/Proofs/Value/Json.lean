import CodeBlock.Proofs.Json.Proper
import CodeBlock.Proofs.Number.Nearest
import CodeBlock.Value.Json
import Mathlib

set_option autoImplicit false

/-! # JSON that becomes a value and JSON again

A value keeps all that its JSON says: the members of an object in their order, since their keys differ, and
whether a number is whole. Only a whole number that takes all 64 bits has no place among the whole numbers of
values, which have a sign. It becomes the floating-point number that is nearest, and stays that. -/

namespace CodeBlock

namespace Json

/-! ## What is kept -/

/-- A floating-point number as JSON, which has only the finite ones. -/
def ofFloat : Binary64 → Json
  | .finite x => .float x
  | _ => .null

/-- The floating-point number nearest to a natural number. -/
def nearestFloat (n : Nat) : Json := ofFloat (Binary64.ofNat n)

/-- The nearest float of a word of 64 bits is a number, and none of the format is nearer. -/
theorem exists_nearestFloat {n : Nat} (hn : n < 2 ^ 64) :
    ∃ x : Binary64.Finite, nearestFloat n = .float x ∧ x.negative = false ∧ x.IsNearest n 1 := by
  have hsmall : n < 2 ^ 64 * 1 := hn
  obtain ⟨x, hx, hpositive, hnearest⟩ := Binary64.exists_ofRatio_eq_nearest Nat.one_pos (by decide) hsmall
  exact ⟨x, congrArg ofFloat hx, hpositive, hnearest⟩

mutual

/-- The value with each whole number that is too large for 64 bits with a sign as the nearest float. -/
def narrowed : Json → Json
  | .integer i => if i < 2 ^ 63 then .integer i else nearestFloat i.toNat
  | .array items => .array (narrowedItems items)
  | .object members => .object (narrowedMembers members)
  | .null => .null
  | .bool b => .bool b
  | .float x => .float x
  | .string text => .string text

/-- The elements of an array, narrowed one by one. -/
def narrowedItems : List Json → List Json
  | [] => []
  | item :: items => item.narrowed :: narrowedItems items

def narrowedMembers : List (String × Json) → List (String × Json)
  | [] => []
  | (key, value) :: members => (key, value.narrowed) :: narrowedMembers members

end

theorem narrowed_array (items : List Json) : (array items).narrowed = .array (items.map narrowed) := by
  have hitems : narrowedItems items = items.map narrowed := by
    induction items with
    | nil => rfl
    | cons item items ih => rw [narrowedItems, ih, List.map_cons]
  rw [narrowed, hitems]

theorem narrowed_object (members : List (String × Json)) :
    (object members).narrowed = .object (members.map fun member => (member.1, member.2.narrowed)) := by
  have hmembers : narrowedMembers members = members.map fun member => (member.1, member.2.narrowed) := by
    induction members with
    | nil => rfl
    | cons member members ih => rw [narrowedMembers, ih, List.map_cons]
  rw [narrowed, hmembers]

theorem IsProper.narrowed {j : Json} (h : j.IsProper) : j.narrowed.IsProper ∧ j.narrowed.narrowed = j.narrowed := by
  induction h with
  | null => exact ⟨.null, rfl⟩
  | bool => exact ⟨.bool, rfl⟩
  | float => exact ⟨.float, rfl⟩
  | string => exact ⟨.string, rfl⟩
  | @integer i hlow hhigh =>
      rw [Json.narrowed]
      split_ifs with hsmall
      · exact ⟨.integer hlow hhigh, by rw [Json.narrowed, if_pos hsmall]⟩
      · -- a number that is too large becomes a floating-point number, and that stays
        obtain ⟨x, hx, -⟩ := exists_nearestFloat (show i.toNat < 2 ^ 64 by omega)
        rw [hx]
        exact ⟨.float, rfl⟩
  | array _ ih =>
      rw [narrowed_array, narrowed_array, List.map_map]
      refine ⟨.array (by simpa using fun item hitem => (ih item hitem).1), congrArg _ ?_⟩
      exact List.map_congr_left fun item hitem => (ih item hitem).2
  | object hdistinct _ ih =>
      rw [narrowed_object, narrowed_object, List.map_map]
      refine ⟨.object ?_ ?_, congrArg _ ?_⟩
      · simpa [Table.IsDistinct, Function.comp_def] using hdistinct
      · intro member hmember
        obtain ⟨original, horiginal, rfl⟩ := List.mem_map.1 hmember
        exact (ih original horiginal).1
      · exact List.map_congr_left fun member hmember => congrArg (member.1, ·) (ih member hmember).2

end Json

namespace Value

/-! ## There and back -/

theorem ofJson_array (items : List Json) : ofJson (.array items) = .sequence (items.map ofJson) := by
  have hitems : ofJsonItems items = items.map ofJson := by
    induction items with
    | nil => rfl
    | cons item items ih => rw [ofJsonItems, ih, List.map_cons]
  rw [ofJson, hitems]

theorem ofJson_object (members : List (String × Json)) :
    ofJson (.object members) = .record (members.map fun member => (member.1, ofJson member.2)) := by
  have hmembers : ofJsonMembers members = members.map fun member => (member.1, ofJson member.2) := by
    induction members with
    | nil => rfl
    | cons member members ih => rw [ofJsonMembers, ih, List.map_cons]
  rw [ofJson, hmembers]

theorem toJson_sequence (items : List Value) : (sequence items).toJson = .array (items.map toJson) := by
  have hitems : toJsonItems items = items.map toJson := by
    induction items with
    | nil => rfl
    | cons item items ih => rw [toJsonItems, ih, List.map_cons]
  rw [toJson, hitems]

/-- A record with different labels becomes an object with its fields in their order. -/
theorem toJson_record {fields : List (String × Value)} (h : Table.IsDistinct fields) :
    (record fields).toJson = .object (fields.map fun field => (field.1, field.2.toJson)) := by
  have hfields : toJsonFields fields = fields.map fun field => (field.1, field.2.toJson) := by
    clear h
    induction fields with
    | nil => rfl
    | cons field fields ih => rw [toJsonFields, ih, List.map_cons]
  have hdistinct : Table.IsDistinct (fields.map fun field => (field.1, field.2.toJson)) := by
    simpa [Table.IsDistinct, Function.comp_def] using h
  rw [toJson, hfields, hdistinct.ofEntries_eq]

theorem leafToJson_float (x : Binary64) : leafToJson (.float x) = Json.ofFloat x := by
  cases x <;> rfl

/-- A whole number that a word of 64 bits holds comes back as it is if it may have a sign, and else as the
    nearest float. -/
theorem leafToJson_ofInt {i : Int} (hlow : -2 ^ 63 ≤ i) : leafToJson (ofInt i) = (Json.integer i).narrowed := by
  rw [Json.narrowed]
  by_cases hhigh : i < 2 ^ 63
  · have hfits : int64? i = some (Int64.ofInt i) := if_pos ⟨hlow, hhigh⟩
    rw [if_pos hhigh, ofInt, hfits, leafToJson, Int64.toInt_ofInt_of_le hlow hhigh]
  · have hlarge : int64? i = none := if_neg fun h => hhigh h.2
    obtain ⟨n, rfl⟩ := Int.eq_ofNat_of_zero_le (show 0 ≤ i by omega)
    rw [if_neg hhigh, ofInt, hlarge]
    simp only [leafToJson_float, if_neg (Int.natCast_nonneg n).not_gt, Json.nearestFloat, Int.natAbs_natCast,
      Int.toNat_natCast]

theorem toJson_ofJson_eq_narrowed {j : Json} (h : j.IsProper) : (ofJson j).toJson = j.narrowed := by
  induction h with
  | null => rfl
  | bool => rfl
  | float => rfl
  | string => rfl
  | integer hlow _ => exact leafToJson_ofInt hlow
  | array _ ih =>
      rw [ofJson_array, toJson_sequence, Json.narrowed_array, List.map_map]
      exact congrArg _ (List.map_congr_left ih)
  | @object members hdistinct _ ih =>
      have hfields : Table.IsDistinct (members.map fun member => (member.1, ofJson member.2)) := by
        simpa [Table.IsDistinct, Function.comp_def] using hdistinct
      rw [ofJson_object, toJson_record hfields, Json.narrowed_object, List.map_map]
      exact congrArg _ (List.map_congr_left fun member hmember => congrArg (member.1, ·) (ih member hmember))

/-- Proper JSON comes back from its value as it was, members and elements in their order, but for whole numbers
    that are too large for 64 bits with a sign: those come back as the nearest float. So it does not change any
    more when it is made a value once again. -/
theorem toJson_ofJson {j : Json} (h : j.IsProper) :
    (ofJson j).toJson = j.narrowed ∧ (ofJson (ofJson j).toJson).toJson = (ofJson j).toJson ∧
      ∀ n < 2 ^ 64, ∃ x : Binary64.Finite,
        Json.nearestFloat n = .float x ∧ x.negative = false ∧ x.IsNearest n 1 := by
  obtain ⟨hproper, hagain⟩ := h.narrowed
  have honce := toJson_ofJson_eq_narrowed h
  refine ⟨honce, ?_, fun n hn => Json.exists_nearestFloat hn⟩
  rw [honce, toJson_ofJson_eq_narrowed hproper, hagain]

/-- The largest whole numbers without a sign and with one, under keys that are not in the order of letters. -/
theorem toJson_ofJson_large :
    ∃ j : Json,
      Json.ofText "\x7b\"b\":[18446744073709551615],\"a\":9223372036854775807\x7d".toList = .ok j ∧
      (ofJson j).toJson = j.narrowed ∧
      j.narrowed.compact = "\x7b\"b\":[1.8446744073709552e+19],\"a\":9223372036854775807\x7d" := by
  obtain ⟨j, hread, hwritten⟩ : ∃ j : Json,
      Json.ofText "\x7b\"b\":[18446744073709551615],\"a\":9223372036854775807\x7d".toList = .ok j ∧
      j.narrowed.compact = "\x7b\"b\":[1.8446744073709552e+19],\"a\":9223372036854775807\x7d" :=
    ⟨_, by cbv, by decide +kernel⟩
  exact ⟨j, hread, (toJson_ofJson (Json.isProper_of_ofText hread)).1, hwritten⟩

end Value

end CodeBlock
