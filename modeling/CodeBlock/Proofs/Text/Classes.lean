import CodeBlock.Text.Alphabetic
import CodeBlock.Text.Blank
import Mathlib.Data.List.DropRight
import Mathlib.Data.List.TakeDrop
import Mathlib.Data.List.TakeWhile
import Mathlib.Tactic.IntervalCases

set_option autoImplicit false

/-! # Classes of characters side by side

Blanks, digits and the characters of words do not overlap, so the end of a word or a number is always
seen. The classes are tables, and what is said of all their members is checked member by member. -/

namespace CodeBlock.Text

/-! ## Runs -/

/-- A run of one class is cut off whole when what follows does not start with that class. -/
theorem span_append {p : Char → Bool} {run rest : List Char} (hrun : ∀ c ∈ run, p c = true)
    (hrest : ∀ c ∈ rest.head?, p c = false) : (run ++ rest).span p = (run, rest) := by
  rw [List.span_eq_takeWhile_dropWhile, List.takeWhile_append_of_pos hrun,
    List.dropWhile_append_of_pos hrun]
  cases rest with
  | nil => simp
  | cons c rest => simp [hrest c rfl]

/-! ## Members of the classes -/

/-- The character of a code point has that code point. -/
theorem toNat_ofNat {n : Nat} (h : n.isValidChar) : (Char.ofNat n).toNat = n := by
  rw [Char.ofNat, dif_pos h]
  rfl

/-- A number that is no code point stands for the first character. -/
theorem toNat_ofNat_of_not_isValidChar {n : Nat} (h : ¬ n.isValidChar) : (Char.ofNat n).toNat = 0 := by
  rw [Char.ofNat, dif_neg h]
  rfl

/-- What holds for the characters of all code points below a bound holds for all characters below
    it. -/
theorem forall_of_toNat_lt {bound : Nat} {P : Char → Prop}
    (h : ∀ n < bound, P (Char.ofNat n)) (c : Char) (hc : c.toNat < bound) : P c := by
  have hn := h c.toNat hc
  rwa [Char.ofNat_toNat] at hn

/-- The code points of the blank characters. -/
def blankCodes : List Nat :=
  [0x9, 0xA, 0xB, 0xC, 0xD, 0x20, 0x85, 0xA0, 0x1680, 0x2000, 0x2001, 0x2002, 0x2003, 0x2004, 0x2005,
    0x2006, 0x2007, 0x2008, 0x2009, 0x200A, 0x2028, 0x2029, 0x202F, 0x205F, 0x3000]

theorem mem_blankCodes_of_isBlank {c : Char} (h : isBlank c = true) : c.toNat ∈ blankCodes := by
  simp only [isBlank, Bool.or_eq_true, Bool.and_eq_true, decide_eq_true_eq, beq_iff_eq] at h
  simp only [blankCodes, List.mem_cons, List.not_mem_nil, or_false]
  omega

theorem forall_of_isBlank {P : Char → Prop} (h : ∀ n ∈ blankCodes, P (Char.ofNat n)) {c : Char}
    (hc : isBlank c = true) : P c := by
  have hn := h c.toNat (mem_blankCodes_of_isBlank hc)
  rwa [Char.ofNat_toNat] at hn

/-- What holds for the ten digits holds for all digits. -/
theorem forall_of_isDigit {P : Char → Prop} (h : ∀ n, 48 ≤ n → n ≤ 57 → P (Char.ofNat n)) {c : Char}
    (hc : c.isDigit = true) : P c := by
  obtain ⟨hlow, hhigh⟩ := Char.isDigit_iff_toNat.1 hc
  have hn := h c.toNat hlow hhigh
  rwa [Char.ofNat_toNat] at hn

theorem isAlphabetic_of_isDigit {c : Char} (h : c.isDigit = true) : isAlphabetic c = false := by
  refine forall_of_isDigit (P := fun c => isAlphabetic c = false) ?_ h
  intro n hlow hhigh
  interval_cases n <;> decide +kernel

/-! ## Sets without a common member -/

/-- Whether the members of a run are all even or all odd: it takes every other code point, or is only one. -/
def runKeepsParity (run : Nat × Nat × Nat) : Bool := run.2.2 % 2 == 0 || run.1 == run.2.1

/-- Whether two runs have no code point in common: one ends before the other starts, or one has even members
    and the other odd ones. -/
def runsApart (a b : Nat × Nat × Nat) : Bool :=
  Nat.blt a.2.1 b.1 || Nat.blt b.2.1 a.1 ||
    (runKeepsParity a && runKeepsParity b && (a.1 + b.1) % 2 == 1)

theorem mod_two_of_runContains {run : Nat × Nat × Nat} (hparity : runKeepsParity run = true) {n : Nat}
    (h : runContains n run = true) : n % 2 = run.1 % 2 := by
  simp only [runContains, Bool.and_eq_true, decide_eq_true_eq, beq_iff_eq] at h
  simp only [runKeepsParity, Bool.or_eq_true, beq_iff_eq] at hparity
  obtain ⟨⟨hfirst, hlast⟩, hstep⟩ := h
  rcases hparity with heven | hsingle
  · have htwo : 2 ∣ n - run.1 := (Nat.dvd_of_mod_eq_zero heven).trans (Nat.dvd_of_mod_eq_zero hstep)
    omega
  · omega

theorem runContains_of_runsApart {a b : Nat × Nat × Nat} (h : runsApart a b = true) {n : Nat}
    (ha : runContains n a = true) : runContains n b = false := by
  rw [← Bool.not_eq_true]
  intro hb
  simp only [runsApart, Bool.or_eq_true, Bool.and_eq_true, Nat.blt_eq, beq_iff_eq] at h
  rcases h with (hbefore | hafter) | ⟨⟨haparity, hbparity⟩, hodd⟩
  · simp only [runContains, Bool.and_eq_true, decide_eq_true_eq] at ha hb
    omega
  · simp only [runContains, Bool.and_eq_true, decide_eq_true_eq] at ha hb
    omega
  · have hna := mod_two_of_runContains haparity ha
    have hnb := mod_two_of_runContains hbparity hb
    omega

/-- Whether the runs of a set come in the order in which they start. -/
def CharSet.isAscending : CharSet → Bool
  | [] | [_] => true
  | run :: next :: runs => Nat.ble run.1 next.1 && CharSet.isAscending (next :: runs)

/-- Whether no code point is in two sets, which is seen in one pass over both: for each run of the first set the
    runs of the second one that end before it are left behind, and only those that start before its end are
    looked at. -/
def CharSet.isApartFrom : CharSet → CharSet → Bool
  | [], _ => true
  | run :: runs, others =>
      let ahead := others.dropWhile fun other => Nat.blt other.2.1 run.1
      (ahead.takeWhile fun other => Nat.ble other.1 run.2.1).all (runsApart run) &&
        CharSet.isApartFrom runs ahead

theorem CharSet.pairwise_of_isAscending {set : CharSet} (h : set.isAscending = true) :
    set.Pairwise fun run later => run.1 ≤ later.1 := by
  induction set with
  | nil => exact .nil
  | cons run runs ih =>
      cases runs with
      | nil => simp
      | cons next runs =>
          rw [isAscending, Bool.and_eq_true, Nat.ble_eq] at h
          have hruns := ih h.2
          refine List.pairwise_cons.2 ⟨fun later hlater => ?_, hruns⟩
          rcases List.mem_cons.1 hlater with rfl | hlater
          · exact h.1
          · exact h.1.trans ((List.pairwise_cons.1 hruns).1 later hlater)

/-- Runs that start behind the end of a run have none of its members. -/
theorem runContains_of_mem_dropWhile {run other : Nat × Nat × Nat} {ahead : CharSet}
    (hahead : ahead.Pairwise fun run later => run.1 ≤ later.1)
    (hother : other ∈ ahead.dropWhile fun other => Nat.ble other.1 run.2.1) {n : Nat}
    (hn : n ≤ run.2.1) : runContains n other = false := by
  induction ahead with
  | nil => simp at hother
  | cons first ahead ih =>
      rw [List.pairwise_cons] at hahead
      rw [List.dropWhile_cons] at hother
      split_ifs at hother with hstart
      · exact ih hahead.2 hother
      · have hfirst : first.1 ≤ other.1 := by
          rcases List.mem_cons.1 hother with rfl | hmem
          · exact Nat.le_refl _
          · exact hahead.1 other hmem
        rw [Nat.ble_eq] at hstart
        simp only [runContains, Bool.and_eq_false_iff, decide_eq_false_iff_not]
        omega

theorem runContains_of_isApartFrom {a b : CharSet} (ha : a.Pairwise fun run later => run.1 ≤ later.1)
    (hb : b.Pairwise fun run later => run.1 ≤ later.1) (h : a.isApartFrom b = true)
    {member other : Nat × Nat × Nat} (hmember : member ∈ a) (hother : other ∈ b) {n : Nat}
    (hn : runContains n member = true) : runContains n other = false := by
  induction a generalizing b with
  | nil => simp at hmember
  | cons run runs ih =>
      rw [CharSet.isApartFrom, Bool.and_eq_true, List.all_eq_true] at h
      rw [List.pairwise_cons] at ha
      have hstart : run.1 ≤ member.1 := by
        rcases List.mem_cons.1 hmember with rfl | hmem
        · exact Nat.le_refl _
        · exact ha.1 member hmem
      rw [← List.takeWhile_append_dropWhile (p := fun other => Nat.blt other.2.1 run.1) (l := b),
        List.mem_append] at hother
      rcases hother with hbehind | hahead
      · -- a run that is left behind ends before all runs to come
        have hend : other.2.1 < run.1 := by simpa using List.mem_takeWhile_imp hbehind
        simp only [runContains, Bool.and_eq_true, decide_eq_true_eq] at hn
        simp only [runContains, Bool.and_eq_false_iff, decide_eq_false_iff_not]
        omega
      · have hsorted := hb.sublist (List.dropWhile_sublist fun other => Nat.blt other.2.1 run.1)
        rcases List.mem_cons.1 hmember with rfl | hmem
        · rw [← List.takeWhile_append_dropWhile (p := fun other => Nat.ble other.1 member.2.1)
            (l := b.dropWhile _), List.mem_append] at hahead
          rcases hahead with hnear | hfar
          · exact runContains_of_runsApart (h.1 other hnear) hn
          · refine runContains_of_mem_dropWhile hsorted hfar ?_
            simp only [runContains, Bool.and_eq_true, decide_eq_true_eq] at hn
            exact hn.1.2
        · exact ih ha.2 hsorted h.2 hmem hahead

theorem CharSet.contains_of_isApartFrom {a b : CharSet} (ha : a.isAscending = true)
    (hb : b.isAscending = true) (h : a.isApartFrom b = true) {c : Char} (hc : a.contains c = true) :
    b.contains c = false := by
  obtain ⟨member, hmember, hn⟩ := List.any_eq_true.1 hc
  refine List.any_eq_false.2 fun other hother => ?_
  simpa using runContains_of_isApartFrom (pairwise_of_isAscending ha) (pairwise_of_isAscending hb) h
    hmember hother hn

theorem isUpperLetter_of_isLowerLetter {c : Char} (h : isLowerLetter c = true) : isUpperLetter c = false :=
  CharSet.contains_of_isApartFrom (by decide +kernel) (by decide +kernel) (by decide +kernel) h

/-! ## Trimming -/

theorem trimEnd_trimEnd (s : List Char) : trimEnd (trimEnd s) = trimEnd s := by
  unfold trimEnd
  rw [List.reverse_reverse, List.dropWhile_idempotent]

theorem trimEnd_trim (s : List Char) : trimEnd (trim s) = trim s := trimEnd_trimEnd _

/-- A text between two characters that are no blanks has no blanks to be taken off. -/
theorem trim_eq_self {a b : Char} {s : List Char} (ha : isBlank a = false) (hb : isBlank b = false) :
    trim (a :: s ++ [b]) = a :: s ++ [b] := by
  simp [trim, trimStart, trimEnd, ha, hb]

/-- The blanks around such a text are taken off, and nothing else is. -/
theorem trim_between_blanks {a b : Char} {before s after : List Char}
    (hbefore : ∀ c ∈ before, isBlank c = true) (hafter : ∀ c ∈ after, isBlank c = true)
    (ha : isBlank a = false) (hb : isBlank b = false) :
    trim (before ++ (a :: s ++ [b]) ++ after) = a :: s ++ [b] := by
  have hreverse : ∀ c ∈ after.reverse, isBlank c = true := by simpa using hafter
  have hstart : trimStart (before ++ (a :: s ++ [b]) ++ after) = a :: s ++ [b] ++ after := by
    rw [trimStart, List.append_assoc, List.dropWhile_append_of_pos hbefore]
    simp [ha]
  rw [trim, hstart, trimEnd, List.reverse_append, List.dropWhile_append_of_pos hreverse]
  simp [hb]

theorem eq_nil_of_trimEnd_append {s blanks : List Char} (h : trimEnd (s ++ blanks) = s ++ blanks)
    (hblanks : ∀ c ∈ blanks, isBlank c = true) : blanks = [] := by
  have hreverse : ∀ c ∈ blanks.reverse, isBlank c = true := by simpa using hblanks
  have htrim : trimEnd (s ++ blanks) = trimEnd s := by
    unfold trimEnd
    rw [List.reverse_append, List.dropWhile_append_of_pos hreverse]
  have hle : (trimEnd s).length ≤ s.length := by
    unfold trimEnd
    have := (List.dropWhile_sublist isBlank (l := s.reverse)).length_le
    simpa using this
  rw [← htrim, h, List.length_append] at hle
  exact List.eq_nil_of_length_eq_zero (by omega)

/-! ## Trimming around a character -/

theorem trimStart_trimStart (s : List Char) : trimStart (trimStart s) = trimStart s :=
  List.dropWhile_idempotent isBlank s

/-- A character that is no blank stops the trimming at the start. -/
theorem trimStart_append_cons {c : Char} (hc : isBlank c = false) (before after : List Char) :
    trimStart (before ++ c :: after) = trimStart before ++ c :: after := by
  induction before with
  | nil => simp [trimStart, hc]
  | cons d before ih =>
      cases hd : isBlank d with
      | true => simpa [trimStart, hd] using ih
      | false => simp [trimStart, hd]

/-- A character that is no blank stops the trimming at the end. -/
theorem trimEnd_append_cons {c : Char} (hc : isBlank c = false) (before after : List Char) :
    trimEnd (before ++ c :: after) = before ++ c :: trimEnd after := by
  have hreverse : (before ++ c :: after).reverse = after.reverse ++ c :: before.reverse := by simp
  have hstart := trimStart_append_cons hc after.reverse before.reverse
  rw [trimStart, trimStart] at hstart
  rw [trimEnd, hreverse, hstart, trimEnd]
  simp

/-- The text on either side of such a character is trimmed at its far end. -/
theorem trim_append_cons {c : Char} (hc : isBlank c = false) (before after : List Char) :
    trim (before ++ c :: after) = trimStart before ++ c :: trimEnd after := by
  rw [trim, trimStart_append_cons hc, trimEnd_append_cons hc]

/-- What a text is trimmed to starts with the first character that is no blank. -/
theorem head?_trim (s : List Char) : (trim s).head? = s.find? (fun c => !isBlank c) := by
  rw [List.find?_not_eq_head?_dropWhile, trim, trimStart]
  cases hrest : s.dropWhile isBlank with
  | nil => rfl
  | cons c rest =>
      have hc : isBlank c = false := by
        simpa [hrest] using List.head?_dropWhile_not isBlank s
      have hend := trimEnd_append_cons hc [] rest
      rw [List.nil_append] at hend
      rw [hend]
      rfl

/-- Nothing is left of blanks only. -/
theorem trim_eq_nil_iff {s : List Char} : trim s = [] ↔ ∀ c ∈ s, isBlank c = true := by
  rw [← List.head?_eq_none_iff, head?_trim, List.find?_eq_none]
  simp

/-- Trimming brings in no character. -/
theorem mem_of_mem_trim {c : Char} {s : List Char} (h : c ∈ trim s) : c ∈ s := by
  have hend := (List.dropWhile_sublist isBlank).subset (List.mem_reverse.1 h)
  exact (List.dropWhile_sublist isBlank).subset (List.mem_reverse.1 hend)

theorem trim_trimStart (s : List Char) : trim (trimStart s) = trim s := by
  rw [trim, trimStart_trimStart, trim]

/-- So are blanks at the end, although those at the start are trimmed before. -/
theorem trim_trimEnd (s : List Char) : trim (trimEnd s) = trim s := by
  have hblanks : ∀ c ∈ s.takeWhile isBlank, isBlank c = true := fun c hc => List.mem_takeWhile_imp hc
  have hs : s.takeWhile isBlank ++ s.dropWhile isBlank = s := List.takeWhile_append_dropWhile
  cases hrest : s.dropWhile isBlank with
  | nil =>
      rw [hrest, List.append_nil] at hs
      have hreverse : s.reverse.dropWhile isBlank = [] := by
        rw [List.dropWhile_eq_nil_iff]
        intro c hc
        rw [List.mem_reverse, ← hs] at hc
        exact hblanks c hc
      have hend : trimEnd s = [] := by rw [trimEnd, hreverse, List.reverse_nil]
      rw [hend, trim, trim, trimStart, trimStart, hrest, List.dropWhile_nil]
  | cons c rest =>
      have hc : isBlank c = false := by
        simpa [hrest] using List.head?_dropWhile_not isBlank s
      rw [← hs, hrest, trimEnd_append_cons hc, trim_append_cons hc, trim_append_cons hc, trimEnd_trimEnd]

end CodeBlock.Text
