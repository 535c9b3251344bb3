import CodeBlock.Table
import Mathlib.Data.List.Basic
import Mathlib.Data.List.Induction

set_option autoImplicit false

/-! # Tables with each key once

Putting keeps the keys of a table distinct, so a table that is built by putting has each key once. Such a
table is determined by its keys, in their order, and by what is found under them: the keys in the order in
which they came first, and under each the value that came last. -/

namespace CodeBlock.Table

variable {α : Type}

/-- Whether a table has each key once. -/
def IsDistinct (table : List (String × α)) : Prop := (table.map Prod.fst).Nodup

instance (table : List (String × α)) : Decidable (IsDistinct table) :=
  inferInstanceAs (Decidable (table.map Prod.fst).Nodup)

/-! ## Putting -/

/-- Putting a value under a key that is there keeps the keys and their order. -/
theorem map_fst_put {key : String} (value : α) {table : List (String × α)}
    (h : key ∈ table.map Prod.fst) : (put key value table).map Prod.fst = table.map Prod.fst := by
  induction table with
  | nil => simp at h
  | cons entry rest ih =>
      obtain ⟨other, _⟩ := entry
      by_cases hk : other = key
      · simp [put, hk]
      · simpa [put, hk] using ih (by simpa [Ne.symm hk] using h)

/-- Putting a value under a new key adds the key at the end. -/
theorem put_of_notMem {key : String} (value : α) {table : List (String × α)}
    (h : key ∉ table.map Prod.fst) : put key value table = table ++ [(key, value)] := by
  induction table with
  | nil => rfl
  | cons entry rest ih =>
      obtain ⟨other, _⟩ := entry
      rw [List.map_cons, List.mem_cons, not_or] at h
      rw [put, if_neg (Ne.symm h.1), ih h.2, List.cons_append]

theorem IsDistinct.put {table : List (String × α)} (h : IsDistinct table) (key : String) (value : α) :
    IsDistinct (put key value table) := by
  rw [IsDistinct]
  by_cases hkey : key ∈ table.map Prod.fst
  · rw [map_fst_put value hkey]
    exact h
  · rw [put_of_notMem value hkey, List.map_append]
    refine List.nodup_append.2 ⟨h, by simp, ?_⟩
    rintro other hother _ hnew rfl
    have heq : other = key := List.mem_singleton.1 hnew
    exact hkey (heq ▸ hother)

/-- Putting one entry after the other keeps the keys distinct. -/
theorem IsDistinct.foldl_put {table : List (String × α)} (h : IsDistinct table)
    (entries : List (String × α)) :
    IsDistinct (entries.foldl (fun table entry => Table.put entry.1 entry.2 table) table) := by
  induction entries generalizing table with
  | nil => exact h
  | cons entry entries ih => exact ih (h.put entry.1 entry.2)

/-- A table of entries has each key once. -/
theorem isDistinct_ofEntries (entries : List (String × α)) : IsDistinct (ofEntries entries) := by
  have hempty : IsDistinct ([] : List (String × α)) := List.nodup_nil
  exact hempty.foldl_put entries

/-- Entries with keys that are all new and different come behind the table in their order. -/
theorem IsDistinct.foldl_put_eq {table entries : List (String × α)} (h : IsDistinct (table ++ entries)) :
    entries.foldl (fun table entry => Table.put entry.1 entry.2 table) table = table ++ entries := by
  induction entries generalizing table with
  | nil => rw [List.foldl_nil, List.append_nil]
  | cons entry entries ih =>
      rw [← List.singleton_append, ← List.append_assoc] at h
      have hnew : entry.1 ∉ table.map Prod.fst := by
        rw [IsDistinct, List.map_append, List.map_append, List.nodup_append, List.nodup_append] at h
        exact fun hmem => h.1.2.2 _ hmem _ List.mem_cons_self rfl
      rw [List.foldl_cons, put_of_notMem entry.2 hnew]
      exact (ih h).trans (List.append_assoc _ _ _)

/-- A table with each key once is the table of its entries. -/
theorem IsDistinct.ofEntries_eq {entries : List (String × α)} (h : IsDistinct entries) :
    ofEntries entries = entries :=
  @IsDistinct.foldl_put_eq α [] entries h

/-! ## Finding -/

theorem exists_get?_of_mem {key : String} {table : List (String × α)}
    (h : key ∈ table.map Prod.fst) : ∃ value, get? key table = some value := by
  obtain ⟨entry, hentry, rfl⟩ := List.mem_map.1 h
  rw [get?]
  cases hfind : table.find? (fun other => other.1 == entry.1) with
  | none => exact absurd (List.find?_eq_none.1 hfind entry hentry) (by simp)
  | some found => exact ⟨found.2, rfl⟩

theorem IsDistinct.filterMap_get? {table : List (String × α)} (h : IsDistinct table) :
    (table.map Prod.fst).filterMap (fun key => (get? key table).map (key, ·)) = table := by
  induction table with
  | nil => rfl
  | cons entry rest ih =>
      obtain ⟨key, value⟩ := entry
      rw [IsDistinct, List.map_cons, List.nodup_cons] at h
      have hrest : ∀ other ∈ rest.map Prod.fst, get? other ((key, value) :: rest) = get? other rest := by
        intro other hother
        have hne : key ≠ other := fun heq => h.1 (heq ▸ hother)
        simp [get?, hne]
      have hfirst : (get? key ((key, value) :: rest)).map (key, ·) = some (key, value) := by simp [get?]
      rw [List.map_cons, List.filterMap_cons, hfirst,
        List.filterMap_congr fun other hother => by rw [hrest other hother], ih h.2]

/-! ## Putting one entry after the other -/

/-- The value of the last entry under a key. -/
def last? (key : String) (entries : List (String × α)) : Option α := get? key entries.reverse

@[simp]
theorem get?_nil (key : String) : get? key ([] : List (String × α)) = none := rfl

theorem get?_append (key : String) (table more : List (String × α)) :
    get? key (table ++ more) = (get? key table).or (get? key more) := by
  rw [get?, List.find?_append]
  cases h : table.find? (fun entry => entry.1 == key) with
  | none => simp [get?, h]
  | some entry => simp [get?, h]

/-- What is found is what was put, or else what was there before. -/
theorem get?_put (key other : String) (value : α) (table : List (String × α)) :
    get? other (put key value table) = (get? other [(key, value)]).or (get? other table) := by
  by_cases h : other = key
  · subst h
    rw [get?_put_self]
    simp [get?]
  · rw [get?_put_ne h]
    simp [get?, Ne.symm h]

theorem last?_append (key : String) (entries more : List (String × α)) :
    last? key (entries ++ more) = (last? key more).or (last? key entries) := by
  rw [last?, List.reverse_append, get?_append, last?, last?]

/-- Entries that are left out by their keys are not found. -/
theorem get?_filter (p : String → Bool) (key : String) (table : List (String × α)) :
    get? key (table.filter fun entry => p entry.1) = if p key then get? key table else none := by
  induction table with
  | nil => simp
  | cons entry rest ih =>
      by_cases hkey : entry.1 = key
      · subst hkey
        by_cases hp : p entry.1 = true
        · simp [get?, hp]
        · simpa [hp] using ih
      · have hskip : get? key (entry :: rest) = get? key rest := by simp [get?, hkey]
        rw [hskip, ← ih]
        by_cases hp : p entry.1 = true
        · simp [get?, hp, hkey]
        · simp [hp]

/-- What is found after putting some entries is what was put last, or else what was there before. -/
theorem get?_foldl_put (key : String) (entries table : List (String × α)) :
    get? key (entries.foldl (fun table entry => put entry.1 entry.2 table) table) =
      (last? key entries).or (get? key table) := by
  induction entries generalizing table with
  | nil => rfl
  | cons entry entries ih =>
      have hlast : last? key (entry :: entries) = (last? key entries).or (get? key [entry]) :=
        last?_append key [entry] entries
      rw [List.foldl_cons, ih, hlast, get?_put, Option.or_assoc]

theorem get?_ofEntries (key : String) (entries : List (String × α)) :
    get? key (ofEntries entries) = last? key entries := by
  rw [ofEntries, get?_foldl_put, get?_nil, Option.or_none]

theorem ofEntries_append (entries more : List (String × α)) :
    ofEntries (entries ++ more) =
      more.foldl (fun table entry => put entry.1 entry.2 table) (ofEntries entries) :=
  List.foldl_append

/-- A table of entries has its keys in the order in which they come first. -/
theorem map_fst_ofEntries (entries : List (String × α)) :
    (ofEntries entries).map Prod.fst = (entries.map Prod.fst).eraseDups := by
  induction entries using List.reverseRecOn with
  | nil => rfl
  | append_singleton entries entry ih =>
      have hmem : entry.1 ∈ (ofEntries entries).map Prod.fst ↔ entry.1 ∈ entries.map Prod.fst := by
        rw [ih, List.mem_eraseDups]
      rw [ofEntries_append, List.foldl_cons, List.foldl_nil, List.map_append, List.eraseDups_append, ← ih]
      by_cases hkey : entry.1 ∈ entries.map Prod.fst
      · have hnone : [entry.1].removeAll (entries.map Prod.fst) = [] := by
          rw [List.cons_removeAll, if_neg (by simpa using hkey)]
          rfl
        rw [map_fst_put entry.2 (hmem.2 hkey), List.map_cons, List.map_nil, hnone]
        exact (List.append_nil _).symm
      · have hall : [entry.1].removeAll (entries.map Prod.fst) = [entry.1] := by
          rw [List.cons_removeAll, if_pos (by simpa using hkey)]
          rfl
        rw [put_of_notMem entry.2 (hmem.not.2 hkey), List.map_append, List.map_cons, List.map_nil, hall]
        rfl

end CodeBlock.Table
