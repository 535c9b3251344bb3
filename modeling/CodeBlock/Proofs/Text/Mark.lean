import CodeBlock.Proofs.Text.Classes
import CodeBlock.Text.Camel
import Mathlib.Data.List.Infix

set_option autoImplicit false

/-! # The mark of a launcher

The line that says what runs a text as a file starts with a mark, a hash and a bang. A text that is put
together from texts without the mark has none either, unless one of them ends in a hash and the next starts
with a bang; so it is enough to look at what stands at each seam. -/

namespace CodeBlock.Text

/-- Whether a text has no mark in it. -/
def Unmarked (s : List Char) : Prop := ¬ ['#', '!'] <:+: s

instance (s : List Char) : Decidable (Unmarked s) := inferInstanceAs (Decidable (¬ ['#', '!'] <:+: s))

theorem unmarked_of_notMem {s : List Char} (h : '#' ∉ s) : Unmarked s :=
  fun hmark => h (hmark.subset List.mem_cons_self)

theorem Unmarked.of_infix {s t : List Char} (ht : Unmarked t) (h : s <:+: t) : Unmarked s :=
  fun hmark => ht (hmark.trans h)

theorem unmarked_cons {c : Char} {s : List Char} :
    Unmarked (c :: s) ↔ (c = '#' → s.head? ≠ some '!') ∧ Unmarked s := by
  have hprefix : ['#', '!'] <+: c :: s ↔ c = '#' ∧ s.head? = some '!' := by
    rw [List.cons_prefix_cons, eq_comm]
    cases s <;> simp [eq_comm]
  rw [Unmarked, List.infix_cons_iff, hprefix, not_or, not_and]
  rfl

/-! ## Seams -/

theorem Unmarked.append {s t : List Char} (hs : Unmarked s) (ht : Unmarked t)
    (hseam : s.getLast? = some '#' → t.head? ≠ some '!') : Unmarked (s ++ t) := by
  induction s with
  | nil => exact ht
  | cons c s ih =>
      rw [unmarked_cons] at hs
      rw [List.cons_append, unmarked_cons]
      cases s with
      | nil => exact ⟨fun hc => hseam (by simp [hc]), ht⟩
      | cons d s => exact ⟨hs.1, ih hs.2 (by simpa using hseam)⟩

/-- There is no mark over a seam behind which there is no bang. -/
theorem Unmarked.append_cons {s t : List Char} {c : Char} (hc : c ≠ '!') (hs : Unmarked s)
    (ht : Unmarked (c :: t)) : Unmarked (s ++ c :: t) :=
  hs.append ht fun _ => by simpa using hc

/-- Nor is there over one before which there is no hash. -/
theorem Unmarked.cons {s : List Char} {c : Char} (hc : c ≠ '#') (hs : Unmarked s) :
    Unmarked (c :: s) :=
  unmarked_cons.2 ⟨fun h => absurd h hc, hs⟩

/-- Texts on lines of their own are unmarked together. -/
theorem unmarked_intercalate {texts : List (List Char)} (h : ∀ t ∈ texts, Unmarked t) :
    Unmarked (['\n'].intercalate texts) := by
  induction texts with
  | nil => exact unmarked_of_notMem (by simp)
  | cons t texts ih =>
      rw [List.forall_mem_cons] at h
      cases texts with
      | nil => simpa using h.1
      | cons next texts =>
          rw [List.intercalate_cons_cons, List.append_assoc]
          exact h.1.append_cons (by decide) ((ih h.2).cons (by decide))

theorem unmarked_flatMap_lines {α : Type} {text : α → List Char} {items : List α} {s : List Char}
    (h : ∀ item ∈ items, Unmarked (text item)) (hs : Unmarked s) :
    Unmarked (items.flatMap (fun item => text item ++ ['\n']) ++ s) := by
  induction items with
  | nil => exact hs
  | cons item items ih =>
      rw [List.forall_mem_cons] at h
      rw [List.flatMap_cons, List.append_assoc, List.append_assoc, List.singleton_append]
      exact h.1.append_cons (by decide) ((ih h.2).cons (by decide))

/-! ## Rewriting -/

/-- Writing characters out as others brings in no mark, if hashes and bangs stay as they are and come from
    nothing else. -/
theorem Unmarked.flatMap {f : Char → List Char}
    (hf : ∀ c, f c = [c] ∨ (f c ≠ [] ∧ '#' ∉ f c ∧ '!' ∉ f c)) {s : List Char} (hs : Unmarked s) :
    Unmarked (s.flatMap f) := by
  induction s with
  | nil => exact hs
  | cons c s ih =>
      rw [unmarked_cons] at hs
      rw [List.flatMap_cons]
      rcases hf c with hc | ⟨-, hhash, -⟩
      · rw [hc, List.singleton_append, unmarked_cons]
        refine ⟨fun heq => ?_, ih hs.2⟩
        -- behind a hash the first character of what follows is that of the text itself
        cases s with
        | nil => simp
        | cons d s =>
            have hd := hs.1 heq
            rw [List.flatMap_cons, List.head?_append]
            rcases hf d with hfd | ⟨hne, -, hbang⟩
            · simpa [hfd] using hd
            · obtain ⟨e, rest, he⟩ := List.exists_cons_of_ne_nil hne
              rw [he] at hbang ⊢
              simpa using fun h : e = '!' => hbang (by simp [h])
      · refine (unmarked_of_notMem hhash).append (ih hs.2) fun hlast => ?_
        exact absurd (List.mem_of_getLast? hlast) hhash

/-- So does replacing line ends. -/
theorem Unmarked.replaceChar {s : List Char} (hs : Unmarked s) :
    Unmarked (replaceChar '\n' ['\\', 'n'] s) := by
  have heq : Text.replaceChar '\n' ['\\', 'n'] s =
      s.flatMap fun c => if c = '\n' then ['\\', 'n'] else [c] := by
    clear hs
    induction s with
    | nil => rfl
    | cons c s ih => rw [Text.replaceChar, ih, List.flatMap_cons]
  rw [heq]
  refine hs.flatMap fun c => ?_
  by_cases hc : c = '\n'
  · exact .inr (by simp [hc])
  · exact .inl (by simp [hc])

/-! ## Camel case -/

/-- No character between two separators is one. -/
theorem eq_false_of_mem_splitOnP {p : Char → Bool} {s piece : List Char}
    (h : piece ∈ s.splitOnP p) : ∀ c ∈ piece, p c = false := by
  induction s generalizing piece with
  | nil => simp_all
  | cons d s ih =>
      obtain ⟨first, rest, hsplit⟩ := List.exists_cons_of_ne_nil (List.splitOnP_ne_nil p s)
      rw [hsplit] at ih
      rw [List.splitOnP_cons_eq_if_modifyHead, hsplit] at h
      split_ifs at h with hd
      · rcases List.mem_cons.1 h with rfl | h
        · simp
        · exact ih h
      · rcases List.mem_cons.1 h with rfl | h
        · exact List.forall_mem_cons.2 ⟨by simpa using hd, ih List.mem_cons_self⟩
        · exact ih (List.mem_cons_of_mem _ h)

/-- A mapping whose runs all end up elsewhere gives a character only for itself. -/
theorem CharShift.apply_ne {shifts : CharShift} {d : Char} (hd : 0 < d.toNat)
    (h : shifts.all fun run =>
      decide ((run.2.1 : Int) + run.2.2.2 < d.toNat) || decide ((d.toNat : Int) < run.1 + run.2.2.2))
    {c : Char} (hc : c ≠ d) : shifts.apply c ≠ d := by
  rw [CharShift.apply]
  split
  · rename_i first last step shift hfind
    have hrun := List.find?_some hfind
    have hout := List.all_eq_true.1 h _ (List.mem_of_find?_eq_some hfind)
    simp only [runContains, Bool.and_eq_true, decide_eq_true_eq] at hrun
    simp only [Bool.or_eq_true, decide_eq_true_eq] at hout
    intro heq
    by_cases hvalid : (c.toNat + shift).toNat.isValidChar
    · have hnat := toNat_ofNat hvalid
      rw [heq] at hnat
      omega
    · -- no such code point, so the character is the one with the code 0
      have hzero := toNat_ofNat_of_not_isValidChar hvalid
      rw [heq] at hzero
      omega
  · exact hc

/-- Neither form of a character is a hash, unless it is one itself. -/
theorem hash_notMem_lowerChar {c : Char} (hc : c ≠ '#') : '#' ∉ lowerChar c := by
  have hshift := @CharShift.apply_ne lowerShifts '#' (by decide) (by decide +kernel) c hc
  unfold lowerChar
  split
  · decide
  · simpa using Ne.symm hshift

theorem hash_notMem_upperChar {c : Char} (hc : c ≠ '#') : '#' ∉ upperChar c := by
  have hshift := @CharShift.apply_ne upperShifts '#' (by decide) (by decide +kernel) c hc
  have hcodes : upperExpansions.all fun entry => '#' ∉ entry.2.map Char.ofNat := by decide +kernel
  unfold upperChar
  split
  · rename_i n codes hfind
    have hentry := List.all_eq_true.1 hcodes _ (List.mem_of_find?_eq_some hfind)
    simpa using hentry
  · simpa using Ne.symm hshift

theorem hash_notMem_lowerAfter {s : List Char} (hs : '#' ∉ s) (before : List Char) :
    '#' ∉ lowerAfter before s := by
  induction s generalizing before with
  | nil => simp [lowerAfter]
  | cons c s ih =>
      rw [List.mem_cons, not_or] at hs
      rw [lowerAfter, List.mem_append, not_or]
      refine ⟨?_, ih hs.2 _⟩
      split
      · split <;> decide
      · exact hash_notMem_lowerChar (Ne.symm hs.1)

theorem hash_notMem_capitalized {s : List Char} (hs : '#' ∉ s) : '#' ∉ capitalized s := by
  cases s with
  | nil => simp [capitalized]
  | cons c s =>
      rw [List.mem_cons, not_or] at hs
      rw [capitalized, List.mem_append, not_or]
      exact ⟨hash_notMem_upperChar (Ne.symm hs.1), hs.2⟩

theorem hash_notMem_lowerCamel (name : String) : '#' ∉ (lowerCamel name).toList := by
  have hwords : ∀ word ∈ camelWords name.toList, '#' ∉ word := by
    intro word hword hmem
    have hseparator := eq_false_of_mem_splitOnP (List.mem_filter.1 hword).1 _ hmem
    exact absurd hseparator (by decide +kernel)
  rw [lowerCamel, String.toList_ofList]
  cases hcases : camelWords name.toList with
  | nil => simp [joinCamel]
  | cons first later =>
      rw [hcases, List.forall_mem_cons] at hwords
      rw [joinCamel, List.mem_append, not_or, List.mem_flatMap]
      refine ⟨hash_notMem_lowerAfter hwords.1 _, ?_⟩
      rintro ⟨word, hword, hmem⟩
      exact hash_notMem_capitalized (hwords.2 word hword) hmem

end CodeBlock.Text
