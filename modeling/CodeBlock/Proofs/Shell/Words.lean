import CodeBlock.CommandLine
import CodeBlock.Shell.Word
import Mathlib.Tactic.SplitIfs

set_option autoImplicit false

/-! # The words of a command

How a shell takes a command apart into words, as far as the text alone decides it: unquoted blanks
separate words, quotes and backslashes are taken away, and what they quote is kept. A text in which
anything else is left to find out has no words here: one that names parameters or files by a pattern,
holds an operator or a comment, or ends between quotes.

The reader is a machine that goes from character to character. Its two laws are that characters without
a meaning are read as they stand, and that what stands in for them never makes a word that looks the same:
a word that is read from a text with a blank behind it is that text only if each character is plain. -/

namespace CodeBlock.Shell

/-! ## The reader -/

/-- Whether an unquoted character stands for itself wherever it is in a word. -/
def isPlain (c : Char) : Bool :=
  !endsWord c && !List.contains ['\x00', '\'', '"', '\\', '$', '\x60', '*', '?', '['] c

/-- What a character is quoted by. -/
inductive Quoting where
  /-- Between words. -/
  | between
  /-- In a word, by nothing. -/
  | word
  /-- By a backslash between words. -/
  | escapedBetween
  /-- By a backslash in a word. -/
  | escaped
  /-- By single quotes. -/
  | single
  /-- By double quotes. -/
  | double
  /-- By a backslash between double quotes. -/
  | escapedDouble
  deriving DecidableEq, Repr

namespace Quoting

/-- What an unquoted character in a word adds to it, and what the next character is quoted by. -/
def nextInWord (c : Char) : Option (List Char × Quoting) :=
  if isPlain c then some ([c], word)
  else if c = ' ' ∨ c = '\t' then some ([], between)
  else if c = '\'' then some ([], single)
  else if c = '"' then some ([], double)
  else if c = '\\' then some ([], escaped)
  else none

/-- What a character adds to the word that it is in, and what the next one is quoted by. -/
def next (c : Char) : Quoting → Option (List Char × Quoting)
  | between =>
      if c = '#' ∨ c = '~' then none
      else if c = '\\' then some ([], escapedBetween)
      else nextInWord c
  | word => nextInWord c
  | escapedBetween => if c = '\n' then some ([], between) else some ([c], word)
  | escaped => if c = '\n' then some ([], word) else some ([c], word)
  | single => if c = '\'' then some ([], word) else some ([c], single)
  | double =>
      if c = '"' then some ([], word)
      else if c = '\\' then some ([], escapedDouble)
      else if c = '$' ∨ c = '\x60' then none
      else some ([c], double)
  | escapedDouble =>
      if c = '\n' then some ([], double)
      else if c = '"' ∨ c = '\\' ∨ c = '$' ∨ c = '\x60' then some ([c], double)
      else some (['\\', c], double)

end Quoting

/-- Words with letters in front of the first one, if there is one. -/
def onto (letters : List Char) : List (List Char) → List (List Char)
  | [] => []
  | word :: words => (letters ++ word) :: words

@[simp] theorem onto_nil : onto [] = id := by
  funext words
  cases words <;> rfl

theorem onto_comp_onto (s t : List Char) : onto s ∘ onto t = onto (s ++ t) := by
  funext words
  cases words <;> simp [onto]

/-- The words of a text whose first character is quoted as given; in a word, the first of them is what is
    left of that word. -/
def wordsFrom : Quoting → List Char → Option (List (List Char))
  | .between, [] => some []
  | .word, [] => some [[]]
  | _, [] => none
  | q, c :: rest => do
      let (letters, q') ← q.next c
      let words ← wordsFrom q' rest
      return if q = .word ∧ q' = .between then [] :: words else onto letters words

/-- The words of a text. A shell is not given a text with a null character. -/
def words? (text : String) : Option (List String) :=
  if '\x00' ∈ text.toList then none
  else (wordsFrom .between text.toList).map (·.map String.ofList)

/-! ## Plain text and quoted text -/

/-- What is read of a character goes in front of what the rest is read as. -/
theorem wordsFrom_cons {q q' : Quoting} {c : Char} {letters : List Char}
    (h : q.next c = some (letters, q')) (hstays : ¬(q = .word ∧ q' = .between)) (rest : List Char) :
    wordsFrom q (c :: rest) = (wordsFrom q' rest).map (onto letters) := by
  cases hrest : wordsFrom q' rest <;> simp [wordsFrom, h, hrest, hstays]

theorem wordsFrom_word_blank (rest : List Char) :
    wordsFrom .word (' ' :: rest) = (wordsFrom .between rest).map ([] :: ·) := by
  have h : Quoting.next ' ' .word = some ([], .between) := by decide
  cases hrest : wordsFrom .between rest <;> simp [wordsFrom, h, hrest]

theorem wordsFrom_between_blank (rest : List Char) :
    wordsFrom .between (' ' :: rest) = wordsFrom .between rest := by
  have h : Quoting.next ' ' .between = some ([], .between) := by decide
  rw [wordsFrom_cons h (by decide), onto_nil, Option.map_id_fun, id]

theorem Quoting.endsWord_of_next_word {c : Char} {letters : List Char}
    (h : Quoting.next c .word = some (letters, .between)) : endsWord c = true := by
  simp only [next, nextInWord] at h
  split_ifs at h with hplain hblank
  · cases h
  · rcases hblank with rfl | rfl <;> decide
  all_goals cases h

/-- How the reader goes through a text in which no word ends: what the text starts in, the text, the letters
    that are read of it, and what is behind it. -/
inductive Quoting.Passes : Quoting → List Char → List Char → Quoting → Prop
  | nil (q : Quoting) : Passes q [] [] q
  | cons {q q' q'' : Quoting} {c : Char} {letters s more : List Char}
      (h : q.next c = some (letters, q')) (hstays : ¬(q = .word ∧ endsWord c = true))
      (hs : Passes q' s more q'') : Passes q (c :: s) (letters ++ more) q''

namespace Quoting

/-- What is read of a text in which no word ends goes in front of what the rest is read as. -/
theorem Passes.wordsFrom_append {q q' : Quoting} {s letters : List Char} (h : Passes q s letters q')
    (rest : List Char) : wordsFrom q (s ++ rest) = (wordsFrom q' rest).map (onto letters) := by
  induction h with
  | nil => simp
  | @cons q q' _ c _ _ _ hnext hstays _ ih =>
      have hgoesOn : ¬(q = word ∧ q' = between) := by
        rintro ⟨rfl, rfl⟩
        exact hstays ⟨rfl, endsWord_of_next_word hnext⟩
      rw [List.cons_append, wordsFrom_cons hnext hgoesOn, ih, Option.map_map, onto_comp_onto]

/-- Plain characters are read as they stand. -/
theorem passes_of_isPlain {s : List Char} (h : ∀ c ∈ s, isPlain c) : Passes word s s word := by
  induction s with
  | nil => exact .nil word
  | cons c s ih =>
      rw [List.forall_mem_cons] at h
      have hc : next c word = some ([c], word) := by simp [next, nextInWord, h.1]
      have hstays : endsWord c = false := by simpa using (Bool.and_eq_true_iff.1 h.1).1
      exact .cons hc (by simp [hstays]) (ih h.2)

/-- A text is read up to the quote that ends it, single quotes in it that are left out and escaped. -/
theorem passes_single (s : List Char) :
    Passes single (Text.replaceChar '\'' ['\'', '\\', '\'', '\''] s ++ ['\'']) s word := by
  have hclose : next '\'' single = some ([], word) := by decide
  induction s with
  | nil => exact .cons hclose (by simp) (.nil word)
  | cons c s ih =>
      rw [Text.replaceChar]
      by_cases hc : c = '\''
      · subst hc
        have hescape : next '\\' word = some ([], escaped) := by decide
        have hquote : next '\'' escaped = some (['\''], word) := by decide
        have hopen : next '\'' word = some ([], single) := by decide
        rw [if_pos rfl]
        exact .cons hclose (by simp) (.cons hescape (by decide) (.cons hquote (by simp)
          (.cons hopen (by decide) ih)))
      · have hnext : next c single = some ([c], single) := by simp [next, hc]
        rw [if_neg hc]
        exact .cons hnext (by simp) ih

/-- A quoted text goes on with the word that it stands in, or starts one: the text itself. -/
theorem passes_quotedWord {q : Quoting} (hq : q = between ∨ q = word) (s : List Char) :
    Passes q (quotedWord s) s word := by
  have hopen : q.next '\'' = some ([], single) := by
    rcases hq with rfl | rfl <;> decide
  have hstays : endsWord '\'' = false := by decide
  exact .cons hopen (by simp [hstays]) (passes_single s)

end Quoting

theorem wordsFrom_quotedWord (s : List Char) : wordsFrom .between (quotedWord s) = some [s] := by
  have hread := (Quoting.passes_quotedWord (.inl rfl) s).wordsFrom_append []
  rw [List.append_nil] at hread
  simp [hread, wordsFrom, onto]

theorem notMem_quotedWord {c : Char} (hquote : c ≠ '\'') (hbackslash : c ≠ '\\') {s : List Char}
    (h : c ∉ s) : c ∉ quotedWord s := by
  have hescaped : c ∉ ['\'', '\\', '\'', '\''] := by simp [hquote, hbackslash]
  simp [quotedWord, hquote, Text.notMem_replaceChar_of_notMem h hescaped]

namespace Quoting

/-- Whether a character that is quoted so belongs to a word that has begun. -/
def IsInWord (q : Quoting) : Prop := q ≠ between ∧ q ≠ escapedBetween

/-- How many letters, and one more, the characters before may still add to a word. -/
def owed : Quoting → Nat
  | escapedDouble => 2
  | _ => 1

/-- In a word, a character ends it or adds no more than itself and what is owed, with each blank. -/
theorem next_of_isInWord {q q' : Quoting} (hq : q.IsInWord) {c : Char} {letters : List Char}
    (h : q.next c = some (letters, q')) :
    (q = word ∧ q' = between) ∨
      (q'.IsInWord ∧ [c].count ' ' ≤ letters.count ' ' ∧ letters.length + q'.owed ≤ q.owed + 1) := by
  cases q with
  | between => exact absurd rfl hq.1
  | escapedBetween => exact absurd rfl hq.2
  | word | escaped | single | double | escapedDouble =>
      simp only [next, nextInWord] at h
      split_ifs at h <;> cases h <;> simp_all [IsInWord, owed]

theorem owed_pos (q : Quoting) : 0 < q.owed := by cases q <;> decide

end Quoting

/-- What is read of a text whose first word is known. -/
theorem wordsFrom_cons_eq_some {q : Quoting} {c : Char} {rest w : List Char} {ws : List (List Char)}
    (h : wordsFrom q (c :: rest) = some (w :: ws)) :
    ∃ letters q', q.next c = some (letters, q') ∧
      ((q = .word ∧ q' = .between ∧ w = []) ∨
        (¬(q = .word ∧ q' = .between) ∧
          ∃ w', w = letters ++ w' ∧ wordsFrom q' rest = some (w' :: ws))) := by
  rw [wordsFrom] at h
  obtain ⟨⟨letters, q'⟩, hnext, h⟩ := Option.bind_eq_some_iff.1 h
  obtain ⟨words, hwords, h⟩ := Option.bind_eq_some_iff.1 h
  rw [Option.pure_def, Option.some.injEq] at h
  refine ⟨letters, q', hnext, ?_⟩
  split_ifs at h with hends
  · cases h
    exact .inl ⟨hends.1, hends.2, rfl⟩
  · cases words with
    | nil => cases h
    | cons w' words =>
        cases h
        exact .inr ⟨hends, w', rfl, hwords⟩

/-- A word that is read on from a text with a blank behind it has more blanks than the text, or fewer
    letters. -/
theorem count_lt_or_length_lt {q : Quoting} (hq : q.IsInWord) {a b w : List Char} {ws : List (List Char)}
    (h : wordsFrom q (a ++ ' ' :: b) = some (w :: ws)) :
    a.count ' ' < w.count ' ' ∨ w.length < a.length + q.owed := by
  induction a generalizing q w with
  | nil =>
      obtain ⟨letters, q', hnext, ⟨-, -, rfl⟩ | ⟨hstays, w', rfl, -⟩⟩ := wordsFrom_cons_eq_some h
      · exact .inr (Nat.add_pos_right _ q.owed_pos)
      · -- what quotes the blank makes it a letter, and the text had none
        obtain ⟨-, hblank, -⟩ := (Quoting.next_of_isInWord hq hnext).resolve_left hstays
        rw [List.count_singleton_self] at hblank
        rw [List.count_nil, List.count_append]
        omega
  | cons c a ih =>
      obtain ⟨letters, q', hnext, ⟨-, -, rfl⟩ | ⟨hstays, w', rfl, hrest⟩⟩ := wordsFrom_cons_eq_some h
      · exact .inr (Nat.add_pos_right _ q.owed_pos)
      · obtain ⟨hq', hblank, hlength⟩ := (Quoting.next_of_isInWord hq hnext).resolve_left hstays
        have hread := ih hq' hrest
        rw [← List.singleton_append, List.count_append, List.count_append, List.length_append,
          List.length_append, List.length_singleton]
        omega

theorem Quoting.nextInWord_of_not_isPlain {c : Char} (hc : ¬isPlain c) {letters : List Char} {q : Quoting}
    (h : nextInWord c = some (letters, q)) (hstays : q ≠ between) :
    letters = [] ∧ q.IsInWord ∧ q.owed = 1 ∧ c ≠ ' ' := by
  rw [nextInWord, if_neg hc] at h
  split_ifs at h <;> cases h <;> simp_all [IsInWord, owed]

theorem isPlain_of_wordsFrom_word {a b : List Char} {ws : List (List Char)}
    (h : wordsFrom .word (a ++ ' ' :: b) = some (a :: ws)) : ∀ c ∈ a, isPlain c := by
  induction a with
  | nil => simp
  | cons c a ih =>
      obtain ⟨letters, q', hnext, ⟨-, -, hw⟩ | ⟨hstays, w', hw, hrest⟩⟩ := wordsFrom_cons_eq_some h
      · cases hw
      · by_cases hc : isPlain c
        · rw [Quoting.next, Quoting.nextInWord, if_pos hc] at hnext
          cases hnext
          cases hw
          exact List.forall_mem_cons.2 ⟨hc, ih hrest⟩
        · -- the whole text would have to come from what stands behind its first character
          obtain ⟨rfl, hq', howed, hblank⟩ := Quoting.nextInWord_of_not_isPlain hc hnext
            fun hends => hstays ⟨rfl, hends⟩
          rw [List.nil_append] at hw
          have := count_lt_or_length_lt hq' (hw ▸ hrest)
          rw [List.count_cons_of_ne hblank, howed, List.length_cons] at this
          omega

/-- A word that starts with a plain character, with a blank behind it, is read as it stands just if it is
    plain. -/
theorem wordsFrom_between_eq_some_iff {c : Char} (hc : Quoting.next c .between = some ([c], .word))
    {a b : List Char} {ws : List (List Char)} :
    wordsFrom .between (c :: a ++ ' ' :: b) = some ((c :: a) :: ws) ↔
      (∀ d ∈ a, isPlain d) ∧ wordsFrom .between b = some ws := by
  have hplain : (∀ d ∈ a, isPlain d) → wordsFrom .word (a ++ ' ' :: b) =
      (wordsFrom .between b).map (a :: ·) := by
    intro h
    rw [(Quoting.passes_of_isPlain h).wordsFrom_append, wordsFrom_word_blank]
    simp [onto, Function.comp_def]
  rw [List.cons_append, wordsFrom_cons hc (by decide)]
  constructor
  · intro h
    obtain ⟨words, hwords, h⟩ := Option.map_eq_some_iff.1 h
    cases words with
    | nil => cases h
    | cons w words =>
        cases h
        -- the word came out as it was written, so nothing in it was quoted
        have ha := isPlain_of_wordsFrom_word hwords
        rw [hplain ha] at hwords
        obtain ⟨_, hb, h⟩ := Option.map_eq_some_iff.1 hwords
        cases h
        exact ⟨ha, hb⟩
  · rintro ⟨ha, hb⟩
    rw [hplain ha, hb]
    rfl

end CodeBlock.Shell
