set_option autoImplicit false

/-! # Tables

A table is a list of entries, each under a key. Putting an entry under a key that is there already
replaces the value where it stands, so that a table that is built by putting has each key once, in
the order in which the keys first came. -/

namespace CodeBlock.Table

variable {α : Type}

/-- The table with `value` under `key`: in the place of the key's old value, or else at the end. -/
def put (key : String) (value : α) : List (String × α) → List (String × α)
  | [] => [(key, value)]
  | (k, v) :: rest => if k = key then (k, value) :: rest else (k, v) :: put key value rest

/-- The entries put one after the other into an empty table. -/
def ofEntries (entries : List (String × α)) : List (String × α) :=
  entries.foldl (fun table entry => put entry.1 entry.2 table) []

/-- The table without the entry under a key. -/
def erase (key : String) (table : List (String × α)) : List (String × α) :=
  table.filter fun entry => entry.1 != key

/-- The value under a key. -/
def get? (key : String) (table : List (String × α)) : Option α :=
  (table.find? fun entry => entry.1 == key).map (·.2)

theorem get?_put_self (key : String) (value : α) (table : List (String × α)) :
    get? key (put key value table) = some value := by
  induction table with
  | nil => simp [put, get?]
  | cons entry rest ih =>
      obtain ⟨k, v⟩ := entry
      by_cases hk : k = key
      · simp [put, get?, hk]
      · simpa [put, get?, hk] using ih

/-- Putting an entry leaves the other keys alone. -/
theorem get?_put_ne {key other : String} (h : other ≠ key) (value : α)
    (table : List (String × α)) : get? other (put key value table) = get? other table := by
  induction table with
  | nil => simp [put, get?, Ne.symm h]
  | cons entry rest ih =>
      obtain ⟨k, v⟩ := entry
      by_cases hk : k = key
      · subst hk
        simp [put, get?, Ne.symm h]
      · by_cases ho : k = other
        · subst ho
          simp [put, get?, h]
        · simpa [put, get?, hk, ho] using ih

/-- What is erased is not found. -/
theorem get?_erase_self (key : String) (table : List (String × α)) :
    get? key (erase key table) = none := by
  simp [erase, get?]

/-- Erasing an entry leaves the other keys alone. -/
theorem get?_erase_ne {key other : String} (h : other ≠ key) (table : List (String × α)) :
    get? other (erase key table) = get? other table := by
  induction table with
  | nil => rfl
  | cons entry rest ih =>
      by_cases hk : entry.1 = key
      · simpa [erase, get?, hk, Ne.symm h] using ih
      · by_cases ho : entry.1 = other
        · simp [erase, get?, ho, h]
        · simpa [erase, get?, hk, ho] using ih

end CodeBlock.Table
