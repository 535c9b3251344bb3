import CodeBlock.Shell.Records.Splitting

set_option autoImplicit false

/-! # Records and fields of a text

The fields between blanks are the words of a text: fields that stand between blanks are found again, however many
blanks there are, and no field is empty or has a blank in it. Between the places of a character every text is a
field, also an empty one, and together with the character they are the text that was cut. -/

namespace CodeBlock.Shell.Records

/-! ## Words -/

/-- The parts of a text between blanks that are not empty. -/
def wordsOf (s : List Char) : List (List Char) := (s.splitOnP separatesFields).filter fun word => !word.isEmpty

theorem wordsOf_append_cons {c : Char} (hc : separatesFields c = true) (s t : List Char) :
    wordsOf (s ++ c :: t) = wordsOf s ++ wordsOf t := by
  rw [wordsOf, List.splitOnP_append_cons s t hc, List.filter_append]
  rfl

theorem wordsOf_cons {c : Char} (hc : separatesFields c = true) (s : List Char) : wordsOf (c :: s) = wordsOf s :=
  wordsOf_append_cons hc [] s

theorem wordsOf_of_forall {word : List Char} (hne : word ≠ []) (h : ∀ c ∈ word, separatesFields c = false) :
    wordsOf word = [word] := by
  rw [wordsOf, List.splitOnP_eq_singleton h]
  simp [hne]

theorem wordsOf_dropWhile (s : List Char) : wordsOf (s.dropWhile separatesFields) = wordsOf s := by
  induction s with
  | nil => rfl
  | cons c s ih =>
    by_cases hc : separatesFields c
    · rw [List.dropWhile_cons_of_pos hc, ih, wordsOf_cons hc]
    · rw [List.dropWhile_cons_of_neg hc]

/-- A word goes as far as there is no blank. -/
theorem wordsOf_append {word rest : List Char} (hne : word ≠ []) (hword : ∀ c ∈ word, separatesFields c = false)
    (hrest : ∀ c ∈ rest.head?, separatesFields c = true) : wordsOf (word ++ rest) = word :: wordsOf rest := by
  cases rest with
  | nil => rw [List.append_nil, wordsOf_of_forall hne hword]; rfl
  | cons c rest =>
    have hc := hrest c rfl
    rw [wordsOf_append_cons hc, wordsOf_of_forall hne hword, wordsOf_cons hc]
    rfl

/-- The parts between blanks are cut off one after the other. -/
theorem splitAtBlanks_eq {fuel : Nat} {s : List Char} (hfuel : s.length < fuel) :
    splitAtBlanks fuel s = wordsOf s := by
  induction fuel generalizing s with
  | zero => omega
  | succ fuel ih =>
    have hshorter : (s.dropWhile separatesFields).length ≤ s.length := (List.dropWhile_suffix _).length_le
    have hstart := List.head?_dropWhile_not separatesFields s
    rw [splitAtBlanks, ← wordsOf_dropWhile s]
    generalize s.dropWhile separatesFields = t at hshorter hstart ⊢
    cases t with
    | nil => rfl
    | cons c t =>
      have hc : separatesFields c = false := by simpa using hstart
      have hparts := List.takeWhile_append_dropWhile (p := fun c => !separatesFields c) (l := c :: t)
      have hword := List.all_eq_true.1 (List.all_takeWhile (p := fun c => !separatesFields c) (l := c :: t))
      have hrest := List.head?_dropWhile_not (fun c => !separatesFields c) (c :: t)
      have hne : (c :: t).takeWhile (fun c => !separatesFields c) ≠ [] := by simp [hc]
      dsimp only
      rw [if_neg (by simp)]
      generalize (c :: t).takeWhile (fun c => !separatesFields c) = word at *
      generalize (c :: t).dropWhile (fun c => !separatesFields c) = rest at *
      rw [← hparts, List.drop_left, wordsOf_append hne (by simpa using hword) ?_, ih ?_]
      · have hlength := congrArg List.length hparts
        have hpos := List.length_pos_iff.2 hne
        simp only [List.length_append, List.length_cons] at hlength hshorter
        omega
      · intro d hd
        rw [Option.mem_def.1 hd] at hrest
        simpa using hrest

theorem split_blanks (s : List Char) : Separator.blanks.split s = wordsOf s := by
  unfold Separator.split
  split
  next h => rw [List.isEmpty_iff.1 h]; rfl
  · exact splitAtBlanks_eq (Nat.lt_succ_self _)

theorem not_separatesFields_of_mem {s part : List Char} (h : part ∈ s.splitOnP separatesFields) :
    ∀ c ∈ part, separatesFields c = false := by
  induction s generalizing part with
  | nil => simp_all
  | cons d s ih =>
    rw [List.splitOnP_cons_eq_if_modifyHead] at h
    split at h
    · obtain rfl | h := List.mem_cons.1 h
      · simp
      · exact ih h
    next hd =>
      obtain ⟨first, others, hparts⟩ := List.exists_cons_of_ne_nil (List.splitOnP_ne_nil separatesFields s)
      rw [hparts] at h ih
      obtain rfl | h := List.mem_cons.1 h
      · exact List.forall_mem_cons.2 ⟨by simpa using hd, ih List.mem_cons_self⟩
      · exact ih (List.mem_cons_of_mem _ h)

/-- No field between blanks is empty or has a blank in it. -/
theorem of_mem_split_blanks {s field : List Char} (h : field ∈ Separator.blanks.split s) :
    field ≠ [] ∧ ∀ c ∈ field, separatesFields c = false := by
  rw [split_blanks, wordsOf, List.mem_filter] at h
  exact ⟨by simpa using h.2, not_separatesFields_of_mem h.1⟩

/-- Fields that are joined by a blank are found again. -/
theorem split_blanks_intercalate {fields : List (List Char)}
    (h : ∀ field ∈ fields, field ≠ [] ∧ ∀ c ∈ field, separatesFields c = false) :
    Separator.blanks.split ([' '].intercalate fields) = fields := by
  rw [split_blanks]
  induction fields with
  | nil => rfl
  | cons field fields ih =>
    obtain ⟨⟨hne, hfield⟩, hfields⟩ := List.forall_mem_cons.1 h
    cases fields with
    | nil => rw [List.intercalate_singleton, wordsOf_of_forall hne hfield]
    | cons next fields =>
      rw [List.intercalate_cons_cons, List.append_assoc, wordsOf_append hne hfield (by simp [separatesFields]),
        List.singleton_append, wordsOf_cons rfl, ih hfields]

/-! ## Fields between a character -/

/-- Joined by the character, the fields are the text. -/
theorem intercalate_split_character (c : Char) {s : List Char} (hs : s ≠ []) :
    [c].intercalate ((Separator.character c).split s) = s := by
  rw [Separator.split, if_neg (by simpa using hs)]
  exact List.intercalate_splitOn c

/-- Fields without the character are found again, however they are. -/
theorem split_character_intercalate {c : Char} {fields : List (List Char)} (hne : [c].intercalate fields ≠ [])
    (h : ∀ field ∈ fields, c ∉ field) : (Separator.character c).split ([c].intercalate fields) = fields := by
  rw [Separator.split, if_neg (by simpa using hne)]
  refine List.splitOn_intercalate c h ?_
  rintro rfl
  exact hne rfl

/-! ## Records -/

/-- A record goes to the first place of the character that ends it. -/
theorem first?_character_eq_some_iff {c : Char} {s record rest : List Char} :
    (RecordEnd.character c).first? s = some (record, rest) ↔
      s ≠ [] ∧ c ∉ record ∧ (s = record ++ c :: rest ∨ s = record ∧ rest = []) := by
  have hcut : ∀ {record : List Char} (rest : List Char), c ∉ record →
      (record ++ rest).takeWhile (· != c) = record ++ rest.takeWhile (· != c) := fun rest hrecord =>
    List.takeWhile_append_of_pos fun d hd => by simpa using ne_of_mem_of_not_mem hd hrecord
  have hended : ∀ {record : List Char} (rest : List Char), c ∉ record →
      (RecordEnd.character c).first? (record ++ c :: rest) = some (record, rest) := fun rest hrecord => by
    simp [RecordEnd.first?, hcut _ hrecord]
  have hlast : ∀ {record : List Char}, record ≠ [] → c ∉ record →
      (RecordEnd.character c).first? record = some (record, []) := fun hne hrecord => by
    have hwhole := hcut [] hrecord
    rw [List.append_nil, List.takeWhile_nil, List.append_nil] at hwhole
    simp [RecordEnd.first?, hwhole, hne]
  constructor
  · intro h
    have hs : s ≠ [] := by
      rintro rfl
      cases h
    by_cases hc : c ∈ s
    · obtain ⟨before, after, rfl, hbefore⟩ := List.eq_append_cons_of_mem hc
      obtain ⟨rfl, rfl⟩ := Prod.mk.inj (Option.some.inj ((hended after hbefore).symm.trans h))
      exact ⟨hs, hbefore, .inl rfl⟩
    · obtain ⟨rfl, rfl⟩ := Prod.mk.inj (Option.some.inj ((hlast hs hc).symm.trans h))
      exact ⟨hs, hc, .inr ⟨rfl, rfl⟩⟩
  · rintro ⟨hs, hrecord, rfl | ⟨rfl, rfl⟩⟩
    · exact hended rest hrecord
    · exact hlast hs hrecord

end CodeBlock.Shell.Records
