set_option autoImplicit false

/-! # Cutting texts

A text is cut at the first occurrence of a character, or at all of them, and each occurrence of a
character may be written as something else. -/

namespace CodeBlock.Text

/-- The parts before and after the first `c`, or nothing when there is none. -/
def splitOnce (c : Char) : List Char → Option (List Char × List Char)
  | [] => none
  | d :: rest =>
      if d = c then some ([], rest)
      else (splitOnce c rest).map fun (before, after) => (d :: before, after)

/-- The parts of a text once cut are the text. -/
theorem eq_of_splitOnce {c : Char} {s before after : List Char}
    (h : splitOnce c s = some (before, after)) : s = before ++ c :: after := by
  induction s generalizing before with
  | nil => simp [splitOnce] at h
  | cons d rest ih =>
      by_cases hd : d = c
      · simp only [splitOnce, if_pos hd, Option.some.injEq, Prod.mk.injEq] at h
        obtain ⟨rfl, rfl⟩ := h
        simp [hd]
      · simp only [splitOnce, if_neg hd, Option.map_eq_some_iff, Prod.mk.injEq] at h
        obtain ⟨⟨b, a⟩, hrest, rfl, rfl⟩ := h
        simp [ih hrest]

/-- There is no `c` in the first part. -/
theorem notMem_of_splitOnce {c : Char} {s before after : List Char}
    (h : splitOnce c s = some (before, after)) : c ∉ before := by
  induction s generalizing before with
  | nil => simp [splitOnce] at h
  | cons d rest ih =>
      by_cases hd : d = c
      · simp only [splitOnce, if_pos hd, Option.some.injEq, Prod.mk.injEq] at h
        obtain ⟨rfl, rfl⟩ := h
        exact List.not_mem_nil
      · simp only [splitOnce, if_neg hd, Option.map_eq_some_iff, Prod.mk.injEq] at h
        obtain ⟨⟨b, a⟩, hrest, rfl, rfl⟩ := h
        rw [List.mem_cons, not_or]
        exact ⟨Ne.symm hd, ih hrest⟩

/-- A text is cut at the first `c` wherever that stands. -/
theorem splitOnce_append {c : Char} {before : List Char} (h : c ∉ before) (after : List Char) :
    splitOnce c (before ++ c :: after) = some (before, after) := by
  induction before with
  | nil => simp [splitOnce]
  | cons d before ih =>
      rw [List.mem_cons, not_or] at h
      simp [splitOnce, Ne.symm h.1, ih h.2]

/-- Exactly the texts with a `c` are cut. -/
theorem splitOnce_eq_none_iff {c : Char} {s : List Char} : splitOnce c s = none ↔ c ∉ s := by
  induction s with
  | nil => simp [splitOnce]
  | cons d rest ih =>
      by_cases hd : d = c
      · simp [splitOnce, hd]
      · simp [splitOnce, hd, Ne.symm hd, ih]

/-- The pieces between the occurrences of `c`. -/
abbrev splitAll (c : Char) (s : List Char) : List (List Char) := s.splitOn c

/-- The text with every `c` written as `replacement`. -/
def replaceChar (c : Char) (replacement : List Char) : List Char → List Char
  | [] => []
  | d :: rest => (if d = c then replacement else [d]) ++ replaceChar c replacement rest

/-- The parts of a text are gone through one by one. -/
theorem replaceChar_append (c : Char) (replacement s t : List Char) :
    replaceChar c replacement (s ++ t) = replaceChar c replacement s ++ replaceChar c replacement t := by
  induction s with
  | nil => rfl
  | cons d s ih => rw [List.cons_append, replaceChar, replaceChar, ih, List.append_assoc]

/-- A text stays as it is if there is nothing to replace. -/
theorem replaceChar_eq_self {c : Char} {s : List Char} (h : c ∉ s) (replacement : List Char) :
    replaceChar c replacement s = s := by
  induction s with
  | nil => rfl
  | cons d s ih =>
      rw [List.mem_cons, not_or] at h
      simp [replaceChar, Ne.symm h.1, ih h.2]

/-- A character that is replaced by others is gone. -/
theorem notMem_replaceChar {c : Char} {replacement : List Char} (h : c ∉ replacement)
    (s : List Char) : c ∉ replaceChar c replacement s := by
  induction s with
  | nil => simp [replaceChar]
  | cons d s ih =>
      rw [replaceChar, List.mem_append, not_or]
      refine ⟨?_, ih⟩
      split
      · exact h
      · rename_i hd
        simpa using Ne.symm hd

/-- Replacing a character brings in none but those of the replacement. -/
theorem notMem_replaceChar_of_notMem {c : Char} {replacement s : List Char} (hs : c ∉ s)
    (h : c ∉ replacement) (d : Char) : c ∉ replaceChar d replacement s := by
  induction s with
  | nil => simp [replaceChar]
  | cons e s ih =>
      rw [List.mem_cons, not_or] at hs
      rw [replaceChar, List.mem_append, not_or]
      refine ⟨?_, ih hs.2⟩
      split
      · exact h
      · simpa using hs.1

end CodeBlock.Text
