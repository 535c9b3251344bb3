import CodeBlock.Proofs.Text.Mark
import CodeBlock.Proofs.Text.Words

set_option autoImplicit false

/-! # Names in camel case again

A name in camel case has no separators any more, so its words are found at humps only. Behind a hump every
word has its capital already; what may still change is the first word, which is made small as a whole. It
reaches up to the first hump, and so it has a capital in it just if the first capital of the name does not
follow a small letter: it follows a digit. Then the second time is not like the first, but the third time is
like the second.

This is about ASCII names. There a character has one small and one capital form, and it does not depend on its
neighbours. -/

namespace CodeBlock.Text

/-! ## Names that open with a hump -/

/-- Whether the first capital letter of a name directly follows a small letter, or the name has no capitals. -/
def opensWithHump : List Char → Bool
  | [] => true
  | [c] => !isUpperLetter c
  | c :: d :: rest => !isUpperLetter c && (isHump c d || opensWithHump (d :: rest))

/-- If there is something behind a text without capitals, it has to make a hump with it. -/
theorem opensWithHump_append {s t : List Char} (hs : ∀ c ∈ s, isUpperLetter c = false)
    (h : t ≠ [] → isHumpBetween s t = true) : opensWithHump (s ++ t) = true := by
  induction s with
  | nil =>
      cases t with
      | nil => rfl
      | cons d t => simp [isHumpBetween] at h
  | cons c s ih =>
      rw [List.forall_mem_cons] at hs
      cases s with
      | nil =>
          cases t with
          | nil => simp [opensWithHump, hs.1]
          | cons d t =>
              have hhump : isHump c d = true := by simpa [isHumpBetween] using h
              simp [opensWithHump, hs.1, hhump]
      | cons d s =>
          rw [isHumpBetween_cons (by simp)] at h
          have hrest := ih hs.2 h
          rw [List.cons_append] at hrest
          simp [opensWithHump, hs.1, hrest]

theorem opensWithHump_of_letters {s : List Char} (hhead : ∀ c ∈ s.head?, isUpperLetter c = false)
    (hs : ∀ c ∈ s, isLowerLetter c = true ∨ isUpperLetter c = true) : opensWithHump s = true := by
  induction s with
  | nil => rfl
  | cons c s ih =>
      have hc : isUpperLetter c = false := hhead c rfl
      rw [List.forall_mem_cons] at hs
      have hlower : isLowerLetter c = true := hs.1.resolve_right (by simp [hc])
      cases s with
      | nil => simp [opensWithHump, hc]
      | cons d s =>
          cases hd : isUpperLetter d with
          | true => simp [opensWithHump, hc, isHump, hlower, hd]
          | false =>
              have hrest := ih (by simpa using hd) hs.2
              simp [opensWithHump, hc, hrest]

/-! ## Names without separators -/

theorem camelWords_cons_of_isHump {c d : Char} (hc : isWordChar c = true) (h : isHump c d = true)
    (s : List Char) : camelWords (c :: d :: s) = [c] :: camelWords (d :: s) := by
  have hcut := camelWords_append_cons_cons (c := c) (d := d) (by simp [isSeam, h]) [] s
  rw [List.nil_append, List.nil_append, camelWords_of_isCamelWord (isCamelWord_singleton hc)] at hcut
  exact hcut

/-- A letter or number in front of another one belongs to the first word, unless there is a hump. -/
theorem camelWords_cons_of_not_isHump {c d : Char} (hc : isWordChar c = true) (hd : isWordChar d = true)
    (h : isHump c d = false) {s first : List Char} {later : List (List Char)}
    (hs : camelWords (d :: s) = first :: later) : camelWords (c :: d :: s) = (c :: first) :: later := by
  obtain ⟨spaced, hspaced⟩ := exists_spaceHumps_cons d s
  obtain ⟨piece, pieces, hsplit⟩ :=
    List.exists_cons_of_ne_nil (List.splitOnP_ne_nil (fun c => !isWordChar c) spaced)
  rw [camelWords, hspaced, List.splitOnP_cons_eq_if_modifyHead, hsplit] at hs
  have hspace : humpSpace c d = [] := by simp [humpSpace, h]
  rw [camelWords, spaceHumps_cons_cons, hspace, hspaced, List.singleton_append,
    List.splitOnP_cons_eq_if_modifyHead, List.splitOnP_cons_eq_if_modifyHead, hsplit]
  simp_all

/-- What the words of a name without separators are: the name cut at its humps. -/
structure IsCut (s first : List Char) (later : List (List Char)) : Prop where
  words : camelWords s = first :: later
  text : s = first ++ later.flatten
  ne_nil : first ≠ []
  capital : ∀ word ∈ later, ∃ c ∈ word.head?, isUpperLetter c = true
  hump : ∀ word ∈ later.head?, isHumpBetween first word = true
  opens : opensWithHump s = true ↔ ∀ c ∈ first, isUpperLetter c = false

/-- The first word starts with the first character. -/
theorem IsCut.exists_cons_eq {c : Char} {s first : List Char} {later : List (List Char)}
    (h : IsCut (c :: s) first later) : ∃ rest, first = c :: rest := by
  obtain ⟨d, rest, rfl⟩ := List.exists_cons_of_ne_nil h.ne_nil
  have htext := h.text
  rw [List.cons_append, List.cons.injEq] at htext
  exact ⟨rest, by rw [htext.1]⟩

theorem IsCut.singleton {c : Char} (hc : isWordChar c = true) : IsCut [c] [c] [] where
  words := camelWords_of_isCamelWord (isCamelWord_singleton hc)
  text := rfl
  ne_nil := by simp
  capital := by simp
  hump := by simp
  opens := by simp [opensWithHump]

theorem IsCut.cons_of_isHump {c d : Char} {s first : List Char} {later : List (List Char)}
    (hc : isWordChar c = true) (hcd : isHump c d = true) (h : IsCut (d :: s) first later) :
    IsCut (c :: d :: s) [c] (first :: later) := by
  obtain ⟨rest, rfl⟩ := h.exists_cons_eq
  obtain ⟨hlower, hupper⟩ : isLowerLetter c = true ∧ isUpperLetter d = true := by
    simpa [isHump] using hcd
  have hnotUpper := isUpperLetter_of_isLowerLetter hlower
  exact {
    words := by rw [camelWords_cons_of_isHump hc hcd, h.words]
    text := by rw [List.flatten_cons, ← h.text]; rfl
    ne_nil := by simp
    capital := List.forall_mem_cons.2 ⟨⟨d, rfl, hupper⟩, h.capital⟩
    hump := by simpa [isHumpBetween] using hcd
    opens := by simp [opensWithHump, hnotUpper, hcd] }

/-- Elsewhere the first word gets longer. -/
theorem IsCut.cons_of_not_isHump {c d : Char} {s first : List Char} {later : List (List Char)}
    (hc : isWordChar c = true) (hd : isWordChar d = true) (hcd : isHump c d = false)
    (h : IsCut (d :: s) first later) : IsCut (c :: d :: s) (c :: first) later where
  words := camelWords_cons_of_not_isHump hc hd hcd h.words
  text := by rw [List.cons_append, ← h.text]
  ne_nil := by simp
  capital := h.capital
  hump := fun word hword => by rw [isHumpBetween_cons h.ne_nil]; exact h.hump word hword
  opens := by rw [List.forall_mem_cons, ← h.opens, opensWithHump, hcd]; simp

/-- A name without separators is cut at its humps. -/
theorem exists_isCut {s : List Char} (hne : s ≠ []) (hs : ∀ c ∈ s, isWordChar c = true) :
    ∃ first later, IsCut s first later := by
  induction s with
  | nil => exact absurd rfl hne
  | cons c s ih =>
      rw [List.forall_mem_cons] at hs
      cases s with
      | nil => exact ⟨[c], [], .singleton hs.1⟩
      | cons d s =>
          obtain ⟨first, later, h⟩ := ih (by simp) hs.2
          have hd : isWordChar d = true := (List.forall_mem_cons.1 hs.2).1
          cases hcd : isHump c d with
          | true => exact ⟨[c], first :: later, h.cons_of_isHump hs.1 hcd⟩
          | false => exact ⟨c :: first, later, h.cons_of_not_isHump hs.1 hd hcd⟩

/-! ## ASCII names -/

/-- Only the first runs of a set matter to the characters below a bound, if the others start behind it. -/
theorem CharSet.contains_of_lt {set : CharSet} {k bound : Nat} {c : Char} (hc : c.toNat < bound)
    (h : (set.drop k).all (fun run => Nat.ble bound run.1) = true) :
    set.contains c = CharSet.contains (set.take k) c := by
  have hrest : (set.drop k).any (runContains c.toNat) = false := by
    refine List.any_eq_false.2 fun run hrun => ?_
    have hstart := Nat.le_of_ble_eq_true (List.all_eq_true.1 h run hrun)
    simp only [runContains, Bool.and_eq_true, decide_eq_true_eq, not_and]
    omega
  rw [contains, contains, ← Bool.or_false ((set.take k).any _), ← hrest, ← List.any_append,
    List.take_append_drop]

/-- What is not found behind the first members of a list is found among them if at all. -/
theorem find?_eq_find?_take {α : Type} {p : α → Bool} {s : List α} {k : Nat}
    (h : ∀ a ∈ s.drop k, p a = false) : s.find? p = (s.take k).find? p := by
  have hrest : (s.drop k).find? p = none := List.find?_eq_none.2 fun a ha => by simp [h a ha]
  conv => lhs; rw [← List.take_append_drop k s]
  rw [List.find?_append, hrest, Option.or_none]

/-- So it is with a mapping. -/
theorem CharShift.apply_of_lt {shifts : CharShift} {k bound : Nat} {c : Char} (hc : c.toNat < bound)
    (h : (shifts.drop k).all (fun run => Nat.ble bound run.1) = true) :
    shifts.apply c = CharShift.apply (shifts.take k) c := by
  rw [apply, apply, find?_eq_find?_take (k := k)]
  rintro ⟨first, last, step, shift⟩ hrun
  have hstart : bound ≤ first := Nat.le_of_ble_eq_true (List.all_eq_true.1 h _ hrun)
  simp only [runContains, Bool.and_eq_false_iff, decide_eq_false_iff_not]
  omega

section

variable {c : Char} {s : List Char}

theorem classes_of_lt (h : c.toNat < 128) :
    isUpperLetter c = c.isUpper ∧ isLowerLetter c = c.isLower ∧ isLetter c = c.isAlpha ∧
      isNumber c = c.isDigit := by
  have hbehind : (upperRuns.drop 1).all (fun run => Nat.ble 128 run.1) = true ∧
      (lowerRuns.drop 1).all (fun run => Nat.ble 128 run.1) = true ∧
      (letterRuns.drop 2).all (fun run => Nat.ble 128 run.1) = true ∧
      (numberRuns.drop 1).all (fun run => Nat.ble 128 run.1) = true := by decide +kernel
  obtain ⟨hupper, hlower, hletter, hnumber⟩ := hbehind
  rw [isUpperLetter, isLowerLetter, isLetter, isNumber, CharSet.contains_of_lt h hupper,
    CharSet.contains_of_lt h hlower, CharSet.contains_of_lt h hletter, CharSet.contains_of_lt h hnumber]
  exact forall_of_toNat_lt (P := fun c => CharSet.contains (upperRuns.take 1) c = c.isUpper ∧
    CharSet.contains (lowerRuns.take 1) c = c.isLower ∧ CharSet.contains (letterRuns.take 2) c = c.isAlpha ∧
    CharSet.contains (numberRuns.take 1) c = c.isDigit) (by decide +kernel) c h

theorem isWordChar_of_lt (h : c.toNat < 128) : isWordChar c = (c.isAlpha || c.isDigit) := by
  obtain ⟨-, -, hletter, hnumber⟩ := classes_of_lt h
  rw [isWordChar, hletter, hnumber]

/-- ASCII characters have the ASCII forms. -/
theorem forms_of_lt (h : c.toNat < 128) : lowerChar c = [c.toLower] ∧ upperChar c = [c.toUpper] := by
  have hbehind : (lowerShifts.drop 1).all (fun run => Nat.ble 128 run.1) = true ∧
      (upperShifts.drop 1).all (fun run => Nat.ble 128 run.1) = true ∧
      upperExpansions.all (fun entry => Nat.ble 128 entry.1) = true := by decide +kernel
  obtain ⟨hlower, hupper, hcodes⟩ := hbehind
  have hdotted : c ≠ 'İ' := by rintro rfl; exact absurd h (by decide)
  have hone : (upperExpansions.find? fun entry => entry.1 == c.toNat) = none := by
    refine List.find?_eq_none.2 fun entry hentry => ?_
    have hlarge := Nat.le_of_ble_eq_true (List.all_eq_true.1 hcodes entry hentry)
    rw [beq_iff_eq]
    omega
  rw [lowerChar, if_neg hdotted, upperChar, hone, CharShift.apply_of_lt h hlower,
    CharShift.apply_of_lt h hupper]
  exact forall_of_toNat_lt (P := fun c => [CharShift.apply (lowerShifts.take 1) c] = [c.toLower] ∧
    [CharShift.apply (upperShifts.take 1) c] = [c.toUpper]) (by decide +kernel) c h

/-- The small form of an ASCII character is of the same kind, and no capital. -/
theorem toLower_of_lt (h : c.toNat < 128) :
    c.toLower.toNat < 128 ∧ c.toLower.isAlpha = c.isAlpha ∧ c.toLower.isDigit = c.isDigit ∧
      c.toLower.isUpper = false ∧ (c.isUpper = false → c.toLower = c) :=
  forall_of_toNat_lt (P := fun c => c.toLower.toNat < 128 ∧ c.toLower.isAlpha = c.isAlpha ∧
    c.toLower.isDigit = c.isDigit ∧ c.toLower.isUpper = false ∧ (c.isUpper = false → c.toLower = c))
    (by decide +kernel) c h

/-- The capital form of an ASCII character is of the same kind, and a capital stays. -/
theorem toUpper_of_lt (h : c.toNat < 128) :
    c.toUpper.toNat < 128 ∧ c.toUpper.isAlpha = c.isAlpha ∧ c.toUpper.isDigit = c.isDigit ∧
      (c.isUpper = true → c.toUpper = c) :=
  forall_of_toNat_lt (P := fun c => c.toUpper.toNat < 128 ∧ c.toUpper.isAlpha = c.isAlpha ∧
    c.toUpper.isDigit = c.isDigit ∧ (c.isUpper = true → c.toUpper = c)) (by decide +kernel) c h

theorem isWordChar_toLower (h : c.toNat < 128) : isWordChar c.toLower = isWordChar c := by
  obtain ⟨hlt, halpha, hdigit, -⟩ := toLower_of_lt h
  rw [isWordChar_of_lt hlt, isWordChar_of_lt h, halpha, hdigit]

theorem isWordChar_toUpper (h : c.toNat < 128) : isWordChar c.toUpper = isWordChar c := by
  obtain ⟨hlt, halpha, hdigit, -⟩ := toUpper_of_lt h
  rw [isWordChar_of_lt hlt, isWordChar_of_lt h, halpha, hdigit]

theorem isUpperLetter_toLower (h : c.toNat < 128) : isUpperLetter c.toLower = false := by
  obtain ⟨hlt, -, -, hupper, -⟩ := toLower_of_lt h
  rw [(classes_of_lt hlt).1, hupper]

theorem toLower_eq_self_iff (h : c.toNat < 128) : c.toLower = c ↔ isUpperLetter c = false := by
  obtain ⟨-, -, -, hupper, hself⟩ := toLower_of_lt h
  rw [(classes_of_lt h).1]
  exact ⟨fun heq => by rw [← heq, hupper], hself⟩

theorem toUpper_eq_self (h : c.toNat < 128) (hc : isUpperLetter c = true) : c.toUpper = c := by
  rw [(classes_of_lt h).1] at hc
  exact (toUpper_of_lt h).2.2.2 hc

/-- The small form of an ASCII text goes character by character. -/
theorem lowerText_of_lt (h : ∀ c ∈ s, c.toNat < 128) : lowerText s = s.map Char.toLower := by
  suffices hafter : ∀ before, lowerAfter before s = s.map Char.toLower from hafter []
  induction s with
  | nil => intro before; rfl
  | cons c s ih =>
      intro before
      rw [List.forall_mem_cons] at h
      have hsigma : c ≠ 'Σ' := by rintro rfl; exact absurd h.1 (by decide)
      rw [lowerAfter, if_neg hsigma, (forms_of_lt h.1).1, ih h.2, List.map_cons, List.singleton_append]

end

theorem capitalized_eq_self {word : List Char} (hascii : ∀ c ∈ word, c.toNat < 128)
    (h : ∃ c ∈ word.head?, isUpperLetter c = true) : capitalized word = word := by
  obtain ⟨c, hc, hupper⟩ := h
  obtain ⟨rest, rfl⟩ := List.head?_eq_some_iff.1 hc
  have hlt := hascii c (by simp)
  rw [capitalized, (forms_of_lt hlt).2, toUpper_eq_self hlt hupper, List.singleton_append]

/-- The characters of words are forms of the characters they had. -/
theorem forall_mem_joinCamel {P : Char → Prop} (hascii : ∀ c, P c → c.toNat < 128)
    (hlower : ∀ c, P c → P c.toLower) (hupper : ∀ c, P c → P c.toUpper) {words : List (List Char)}
    (h : ∀ word ∈ words, ∀ c ∈ word, P c) : ∀ c ∈ joinCamel words, P c := by
  cases words with
  | nil => simp [joinCamel]
  | cons first later =>
      rw [List.forall_mem_cons] at h
      rw [joinCamel, lowerText_of_lt fun c hc => hascii c (h.1 c hc), List.forall_mem_append]
      constructor
      · simpa using fun c hc => hlower c (h.1 c hc)
      · simp only [List.mem_flatMap]
        rintro d ⟨word, hword, hd⟩
        cases word with
        | nil => simp [capitalized] at hd
        | cons c rest =>
            have hc := h.2 _ hword c (by simp)
            rw [capitalized, (forms_of_lt (hascii c hc)).2, List.singleton_append, List.mem_cons] at hd
            rcases hd with rfl | hd
            · exact hupper c hc
            · exact h.2 _ hword d (List.mem_cons_of_mem c hd)

theorem mem_of_mem_camelWords {name word : List Char} (hword : word ∈ camelWords name) {c : Char}
    (hc : c ∈ word) : c ∈ name ∧ isWordChar c = true := by
  have hproper := Segmentation.isProper_ofText name
  have hwords := hproper.camelWords_text
  rw [Segmentation.text_ofText] at hwords
  rw [hwords] at hword
  obtain ⟨segment, hsegment, rfl⟩ := List.mem_map.1 hword
  refine ⟨?_, (hproper.segments segment hsegment).1.all_wordChar c hc⟩
  rw [← Segmentation.text_ofText name, Segmentation.text, List.mem_append, List.mem_flatMap]
  exact .inr ⟨segment, hsegment, by simp [Segment.text, hc]⟩

/-- What holds for the letters and numbers of an ASCII name, in both forms, holds for all of the name in camel
    case. -/
theorem forall_mem_lowerCamel {P : Char → Prop} (hascii : ∀ c, P c → c.toNat < 128)
    (hlower : ∀ c, P c → P c.toLower) (hupper : ∀ c, P c → P c.toUpper) {name : String}
    (h : ∀ c ∈ name.toList, isWordChar c = true → P c) : ∀ c ∈ (lowerCamel name).toList, P c := by
  rw [lowerCamel, String.toList_ofList]
  refine forall_mem_joinCamel hascii hlower hupper fun word hword c hc => ?_
  obtain ⟨hmem, hwordChar⟩ := mem_of_mem_camelWords hword hc
  exact h c hmem hwordChar

/-! ## Camel case of camel case -/

/-- A name without separators has its first word made small. -/
theorem IsCut.joinCamel_eq {s first : List Char} {later : List (List Char)} (h : IsCut s first later)
    (hs : ∀ c ∈ s, c.toNat < 128) :
    joinCamel (camelWords s) = first.map Char.toLower ++ later.flatten := by
  rw [h.text, List.forall_mem_append] at hs
  have hkept : ∀ word ∈ later, capitalized word = id word := fun word hword =>
    capitalized_eq_self (fun c hc => hs.2 c (List.mem_flatten_of_mem hword hc)) (h.capital word hword)
  rw [h.words, joinCamel, lowerText_of_lt hs.1, List.flatMap_def, List.map_congr_left hkept, List.map_id]

/-- The small forms of ASCII characters are the characters themselves just if there are no capitals. -/
theorem map_toLower_eq_self_iff {s : List Char} (hs : ∀ c ∈ s, c.toNat < 128) :
    s.map Char.toLower = s ↔ ∀ c ∈ s, isUpperLetter c = false := by
  induction s with
  | nil => simp
  | cons c s ih =>
      rw [List.forall_mem_cons] at hs ⊢
      rw [List.map_cons, List.cons.injEq, ih hs.2, toLower_eq_self_iff hs.1]

/-- A small letter stays in front of a hump when the word that it ends is made small. -/
theorem isHumpBetween_map_toLower {s t : List Char} (hs : ∀ c ∈ s, c.toNat < 128)
    (h : isHumpBetween s t = true) : isHumpBetween (s.map Char.toLower) t = true := by
  rw [isHumpBetween] at h ⊢
  rw [List.getLast?_map]
  cases hc : s.getLast? with
  | none => simp [hc] at h
  | some c =>
      cases hd : t.head? with
      | none => simp [hd] at h
      | some d =>
          have hhump : isLowerLetter c = true ∧ isUpperLetter d = true := by simpa [hc, hd, isHump] using h
          have hlower : c.toLower = c := (toLower_eq_self_iff (hs c (List.mem_of_getLast? hc))).2
            (isUpperLetter_of_isLowerLetter hhump.1)
          simp [isHump, hlower, hhump]

/-- Whether a name consists of ASCII letters and digits. -/
def IsPlainName (s : List Char) : Prop := ∀ c ∈ s, c.toNat < 128 ∧ isWordChar c = true

/-- There is nothing in a name of letters and digits, or it has its first word made small. -/
theorem IsPlainName.eq_nil_or_exists_isCut {s : List Char} (h : IsPlainName s) :
    s = [] ∨ ∃ first later, IsCut s first later ∧ (∀ c ∈ first, c.toNat < 128) ∧
      joinCamel (camelWords s) = first.map Char.toLower ++ later.flatten := by
  by_cases hne : s = []
  · exact .inl hne
  · obtain ⟨first, later, hcut⟩ := exists_isCut hne fun c hc => (h c hc).2
    have hjoin := hcut.joinCamel_eq fun c hc => (h c hc).1
    refine .inr ⟨first, later, hcut, fun c hc => (h c ?_).1, hjoin⟩
    rw [hcut.text]
    exact List.mem_append_left _ hc

theorem lowerCamel_eq_self_iff {name : String} (h : IsPlainName name.toList) :
    lowerCamel name = name ↔ opensWithHump name.toList = true := by
  have hself : lowerCamel name = name ↔ joinCamel (camelWords name.toList) = name.toList := by
    rw [lowerCamel, ← String.toList_inj, String.toList_ofList]
  rw [hself]
  obtain hnil | ⟨first, later, hcut, hascii, hjoin⟩ := h.eq_nil_or_exists_isCut
  · rw [hnil]
    exact iff_of_true rfl rfl
  · rw [hjoin, hcut.opens, hcut.text, List.append_cancel_right_eq, map_toLower_eq_self_iff hascii]

theorem opensWithHump_lowerCamel {name : String} (h : IsPlainName name.toList) :
    opensWithHump (lowerCamel name).toList = true := by
  rw [lowerCamel, String.toList_ofList]
  obtain hnil | ⟨first, later, hcut, hascii, hjoin⟩ := h.eq_nil_or_exists_isCut
  · rw [hnil]
    rfl
  · have hsmall : ∀ c ∈ first.map Char.toLower, isUpperLetter c = false := by
      simpa using fun c hc => isUpperLetter_toLower (hascii c hc)
    rw [hjoin]
    refine opensWithHump_append hsmall fun hlater => isHumpBetween_map_toLower hascii ?_
    -- the first of the later words is what the hump is made with
    cases later with
    | nil => exact absurd rfl hlater
    | cons word later =>
        obtain ⟨c, hc, -⟩ := hcut.capital word (by simp)
        obtain ⟨rest, rfl⟩ := List.head?_eq_some_iff.1 hc
        exact hcut.hump (c :: rest) rfl

/-- In camel case an ASCII name has letters and digits only. -/
theorem isPlainName_lowerCamel {name : String} (h : ∀ c ∈ name.toList, c.toNat < 128) :
    IsPlainName (lowerCamel name).toList :=
  forall_mem_lowerCamel (fun _ hc => hc.1)
    (fun _ hc => ⟨(toLower_of_lt hc.1).1, (isWordChar_toLower hc.1).trans hc.2⟩)
    (fun _ hc => ⟨(toUpper_of_lt hc.1).1, (isWordChar_toUpper hc.1).trans hc.2⟩)
    fun c hc hword => ⟨h c hc, hword⟩

/-- In camel case a name starts with no capital. -/
theorem isUpperLetter_of_mem_head?_lowerCamel {name : String} (h : ∀ c ∈ name.toList, c.toNat < 128) :
    ∀ c ∈ (lowerCamel name).toList.head?, isUpperLetter c = false := by
  rw [lowerCamel, String.toList_ofList]
  cases hwords : camelWords name.toList with
  | nil => simp [joinCamel]
  | cons first later =>
      have hfirst : first ∈ camelWords name.toList := by rw [hwords]; exact List.mem_cons_self
      have hascii : ∀ c ∈ first, c.toNat < 128 := fun c hc => h c (mem_of_mem_camelWords hfirst hc).1
      cases first with
      | nil => exact absurd (List.mem_filter.1 hfirst).2 (by simp)
      | cons d rest =>
          rw [joinCamel, lowerText_of_lt hascii]
          rintro c ⟨⟩
          exact isUpperLetter_toLower (hascii d (by simp))

theorem opensWithHump_lowerCamel_of_letters {name : String} (h : ∀ c ∈ name.toList, c.toNat < 128)
    (hdigits : ∀ c ∈ name.toList, isNumber c = false) : opensWithHump (lowerCamel name).toList = true := by
  refine opensWithHump_of_letters (isUpperLetter_of_mem_head?_lowerCamel h) fun c hc => ?_
  have hletters := forall_mem_lowerCamel (P := fun c => c.toNat < 128 ∧ c.isAlpha = true)
    (fun _ hc => hc.1)
    (fun _ hc => ⟨(toLower_of_lt hc.1).1, (toLower_of_lt hc.1).2.1.trans hc.2⟩)
    (fun _ hc => ⟨(toUpper_of_lt hc.1).1, (toUpper_of_lt hc.1).2.1.trans hc.2⟩)
    fun c hc hword => by
      -- a word character that is no number is a letter
      have hnumber := hdigits c hc
      rw [isWordChar_of_lt (h c hc)] at hword
      rw [(classes_of_lt (h c hc)).2.2.2] at hnumber
      exact ⟨h c hc, by simpa [hnumber] using hword⟩
  obtain ⟨hlt, halpha⟩ := hletters c hc
  rw [(classes_of_lt hlt).1, (classes_of_lt hlt).2.1, or_comm, ← Bool.or_eq_true]
  exact halpha

/-- An ASCII name in camel case is left as it is by another time just if its first capital, where it has one,
    directly follows a small letter; so it is if the name has no digits. The third time never changes
    anything. -/
theorem lowerCamel_lowerCamel_eq_iff (name : String) (h : ∀ c ∈ name.toList, c.toNat < 128) :
    (lowerCamel (lowerCamel name) = lowerCamel name ↔ opensWithHump (lowerCamel name).toList = true) ∧
      ((∀ c ∈ name.toList, isNumber c = false) → lowerCamel (lowerCamel name) = lowerCamel name) ∧
      lowerCamel (lowerCamel (lowerCamel name)) = lowerCamel (lowerCamel name) := by
  have honce := isPlainName_lowerCamel h
  have htwice := isPlainName_lowerCamel fun c hc => (honce c hc).1
  refine ⟨lowerCamel_eq_self_iff honce, fun hdigits => ?_, ?_⟩
  · rw [lowerCamel_eq_self_iff honce]
    exact opensWithHump_lowerCamel_of_letters h hdigits
  · rw [lowerCamel_eq_self_iff htwice]
    exact opensWithHump_lowerCamel honce

/-- A name without digits that has a separator, a hump and several capitals in a row. -/
theorem lowerCamel_lowerCamel_eq_letters :
    lowerCamel "HTTP_serverName" = "httpServerName" ∧ lowerCamel "httpServerName" = "httpServerName" := by
  have honce : lowerCamel "HTTP_serverName" = "httpServerName" := by decide +kernel
  have hdigits : "HTTP_serverName".toList.all (fun c => !isNumber c) = true := by decide +kernel
  have htwice := (lowerCamel_lowerCamel_eq_iff "HTTP_serverName" (by simp)).2.1 (by simpa using hdigits)
  rw [honce] at htwice
  exact ⟨honce, htwice⟩

/-- Behind a digit a word loses its capital the second time. -/
theorem not_lowerCamel_lowerCamel :
    ¬∀ name : String, (∀ c ∈ name.toList, c.toNat < 128) →
      lowerCamel (lowerCamel name) = lowerCamel name := by
  intro h
  have hname := h "foo1_bar" (by simp)
  have honce : lowerCamel "foo1_bar" = "foo1Bar" := by decide +kernel
  have htwice : lowerCamel "foo1Bar" = "foo1bar" := by decide +kernel
  rw [honce, htwice] at hname
  exact absurd hname (by decide)

end CodeBlock.Text
