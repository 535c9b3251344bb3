import CodeBlock.Proofs.Text.Classes
import CodeBlock.Text.Camel
import Mathlib.Data.List.Chain
import Mathlib.Logic.ExistsUnique

set_option autoImplicit false

/-! # The words of a name

A name in camel case depends on the words of the name and on nothing else. Words are found in two passes: a
space goes into each hump, and what then stands between two separators is a word. Both passes cut a name at a
seam, a place with a separator on one side or a hump around it, and neither looks further than to the next
character; so a name with a seam in it has the words of its two parts (`camelWords_append_cons_cons`).

The other side is what a reader sees: separators, then words with the separators behind each, and none of
them are missing but where two words meet at a hump. A name is taken apart so in exactly one way. -/

namespace CodeBlock.Text

/-! ## Humps -/

/-- Whether `d` directly after `c` makes a hump. -/
def isHump (c d : Char) : Bool := isLowerLetter c && isUpperLetter d

/-- What is put between two neighbours. -/
def humpSpace (c d : Char) : List Char := if isHump c d then [' '] else []

/-- Each pair of neighbours is looked at, although the search goes on behind a hump: the capital letter of a
    hump is no small letter and starts no other one. -/
theorem spaceHumps_cons_cons (c d : Char) (rest : List Char) :
    spaceHumps (c :: d :: rest) = c :: humpSpace c d ++ spaceHumps (d :: rest) := by
  rw [spaceHumps, humpSpace, isHump]
  by_cases hhump : (isLowerLetter c && isUpperLetter d) = true
  · rw [if_pos hhump, if_pos hhump]
    have hupper : isUpperLetter d = true := (Bool.and_eq_true _ _ ▸ hhump).2
    have hlower : isLowerLetter d = false := by
      rw [← Bool.not_eq_true]
      intro hd
      exact absurd (isUpperLetter_of_isLowerLetter hd) (by simp [hupper])
    cases rest with
    | nil => simp [spaceHumps]
    | cons e rest => simp [spaceHumps, hlower]
  · rw [if_neg hhump, if_neg hhump]
    rfl

theorem exists_spaceHumps_cons (c : Char) (rest : List Char) :
    ∃ spaced, spaceHumps (c :: rest) = c :: spaced := by
  cases rest with
  | nil => exact ⟨[], rfl⟩
  | cons d rest => exact ⟨_, spaceHumps_cons_cons c d rest⟩

/-- Two texts are spaced one by one, and at the seam between them. -/
theorem spaceHumps_append_cons_cons (s t : List Char) (c d : Char) :
    spaceHumps (s ++ c :: d :: t) = spaceHumps (s ++ [c]) ++ humpSpace c d ++ spaceHumps (d :: t) := by
  induction s with
  | nil => rw [List.nil_append, spaceHumps_cons_cons]; rfl
  | cons e s ih =>
      cases s with
      | nil =>
          rw [List.nil_append] at ih
          rw [List.singleton_append, List.singleton_append, spaceHumps_cons_cons,
            spaceHumps_cons_cons e c [], ih]
          simp
      | cons f s =>
          rw [List.cons_append, List.cons_append] at ih
          rw [List.cons_append, List.cons_append, List.cons_append, List.cons_append, spaceHumps_cons_cons,
            spaceHumps_cons_cons e f (s ++ [c]), ih]
          simp

theorem exists_spaceHumps_concat (s : List Char) (c : Char) :
    ∃ spaced, spaceHumps (s ++ [c]) = spaced ++ [c] := by
  induction s with
  | nil => exact ⟨[], rfl⟩
  | cons e s ih =>
      obtain ⟨spaced, hspaced⟩ := ih
      cases s with
      | nil => exact ⟨e :: humpSpace e c, by simp [spaceHumps_cons_cons, spaceHumps]⟩
      | cons f s =>
          rw [List.cons_append] at hspaced
          exact ⟨e :: humpSpace e f ++ spaced, by simp [spaceHumps_cons_cons, hspaced]⟩

/-- A text without humps stays as it is. -/
theorem spaceHumps_eq_self {s : List Char} (h : s.IsChain fun c d => isHump c d = false) :
    spaceHumps s = s := by
  induction s with
  | nil => rfl
  | cons c s ih =>
      cases s with
      | nil => rfl
      | cons d s =>
          rw [List.isChain_cons_cons] at h
          rw [spaceHumps_cons_cons, ih h.2, humpSpace, if_neg (by simp [h.1])]
          rfl

/-! ## Pieces -/

/-- The pieces between separators that are not empty. -/
def pieces (s : List Char) : List (List Char) :=
  (s.splitOnP fun c => !isWordChar c).filter fun word => !word.isEmpty

theorem pieces_append_cons {c : Char} (hc : isWordChar c = false) (s t : List Char) :
    pieces (s ++ c :: t) = pieces s ++ pieces t := by
  rw [pieces, List.splitOnP_append_cons s t (by simp [hc]), List.filter_append]
  rfl

theorem pieces_cons {c : Char} (hc : isWordChar c = false) (s : List Char) : pieces (c :: s) = pieces s :=
  pieces_append_cons hc [] s

/-! ## Seams -/

/-- Whether two neighbours never stand in one word. -/
def isSeam (c d : Char) : Bool := !isWordChar c || !isWordChar d || isHump c d

/-- A name is cut at each seam into the words of what is before it and those of what is behind. -/
theorem camelWords_append_cons_cons {c d : Char} (h : isSeam c d = true) (s t : List Char) :
    camelWords (s ++ c :: d :: t) = camelWords (s ++ [c]) ++ camelWords (d :: t) := by
  obtain ⟨before, hbefore⟩ := exists_spaceHumps_concat s c
  obtain ⟨behind, hbehind⟩ := exists_spaceHumps_cons d t
  change pieces _ = pieces _ ++ pieces _
  rw [spaceHumps_append_cons_cons, humpSpace, hbefore, hbehind]
  by_cases hhump : isHump c d = true
  · have hspace : isWordChar ' ' = false := by decide +kernel
    rw [if_pos hhump, List.append_assoc _ [' '], List.singleton_append, pieces_append_cons hspace]
  · rw [if_neg hhump, List.append_nil]
    simp only [isSeam, Bool.or_eq_true, Bool.not_eq_true'] at h
    rcases h with (hc | hd) | h
    · rw [List.append_assoc, List.singleton_append, pieces_append_cons hc, pieces_append_cons hc]
      simp [pieces]
    · rw [pieces_append_cons hd, pieces_cons hd]
    · exact absurd h hhump

/-- Whether a text is all separators. -/
def IsGap (s : List Char) : Prop := ∀ c ∈ s, isWordChar c = false

instance (s : List Char) : Decidable (IsGap s) :=
  decidable_of_iff (s.all (fun c => !isWordChar c) = true) (by simp [IsGap])

theorem camelWords_singleton {c : Char} (hc : isWordChar c = false) : camelWords [c] = [] :=
  pieces_cons hc []

theorem camelWords_append_cons {c : Char} (hc : isWordChar c = false) (s t : List Char) :
    camelWords (s ++ c :: t) = camelWords s ++ camelWords t := by
  have hcons : camelWords (c :: t) = camelWords t := by
    cases t with
    | nil => exact camelWords_singleton hc
    | cons d t =>
        have hcut := camelWords_append_cons_cons (c := c) (d := d) (by simp [isSeam, hc]) [] t
        rwa [List.nil_append, List.nil_append, camelWords_singleton hc, List.nil_append] at hcut
  cases s using List.reverseRecOn with
  | nil => exact hcons
  | append_singleton s d =>
      rw [List.append_assoc, List.singleton_append,
        camelWords_append_cons_cons (by simp [isSeam, hc]), hcons]

/-- Separators at the front belong to no word. -/
theorem camelWords_gap_append {gap : List Char} (hgap : IsGap gap) (s : List Char) :
    camelWords (gap ++ s) = camelWords s := by
  induction gap with
  | nil => rfl
  | cons c gap ih =>
      rw [IsGap, List.forall_mem_cons] at hgap
      exact (camelWords_append_cons hgap.1 [] (gap ++ s)).trans (ih hgap.2)

/-- Any separators at all between two texts cut between their words. -/
theorem camelWords_append_gap_append {gap : List Char} (hgap : IsGap gap) (hne : gap ≠ [])
    (s t : List Char) : camelWords (s ++ gap ++ t) = camelWords s ++ camelWords t := by
  obtain ⟨c, gap, rfl⟩ := List.exists_cons_of_ne_nil hne
  rw [IsGap, List.forall_mem_cons] at hgap
  rw [List.append_assoc, List.cons_append, camelWords_append_cons hgap.1, camelWords_gap_append hgap.2]

theorem camelWords_append_gap {gap : List Char} (hgap : IsGap gap) (s : List Char) :
    camelWords (s ++ gap) = camelWords s := by
  by_cases hne : gap = []
  · rw [hne, List.append_nil]
  · have hcut := camelWords_append_gap_append hgap hne s []
    rwa [List.append_nil, show camelWords [] = [] from rfl, List.append_nil] at hcut

/-! ## Segmentations -/

/-- A word with the separators behind it. -/
structure Segment where
  word : List Char
  gap : List Char
  deriving DecidableEq

/-- A name taken apart: separators, and then words with the separators behind each. -/
structure Segmentation where
  opening : List Char
  segments : List Segment
  deriving DecidableEq

/-- Whether a text can be a word: it has letters and numbers only, and no hump inside. -/
structure IsCamelWord (s : List Char) : Prop where
  ne_nil : s ≠ []
  all_wordChar : ∀ c ∈ s, isWordChar c = true
  noHump : s.IsChain fun c d => isHump c d = false

instance (s : List Char) : Decidable (IsCamelWord s) :=
  decidable_of_iff
    (s ≠ [] ∧ s.all isWordChar = true ∧ s.IsChain fun c d => isHump c d = false)
    ⟨fun ⟨hne, hall, hhump⟩ => ⟨hne, List.all_eq_true.1 hall, hhump⟩,
      fun ⟨hne, hall, hhump⟩ => ⟨hne, List.all_eq_true.2 hall, hhump⟩⟩

def isHumpBetween (s t : List Char) : Bool :=
  match s.getLast?, t.head? with
  | some c, some d => isHump c d
  | _, _ => false

namespace Segment

/-- The text of a segment. -/
def text (a : Segment) : List Char := a.word ++ a.gap

/-- Whether the parts of a segment are what they should be. -/
def IsProper (a : Segment) : Prop := IsCamelWord a.word ∧ IsGap a.gap

/-- Whether one segment may be next to another: they are not without separators, unless at a hump. -/
def Meets (a b : Segment) : Prop := a.gap = [] → isHumpBetween a.word b.word = true

instance (a : Segment) : Decidable a.IsProper :=
  inferInstanceAs (Decidable (IsCamelWord a.word ∧ IsGap a.gap))

instance (a b : Segment) : Decidable (a.Meets b) :=
  inferInstanceAs (Decidable (a.gap = [] → isHumpBetween a.word b.word = true))

end Segment

namespace Segmentation

/-- The name. -/
def text (s : Segmentation) : List Char := s.opening ++ s.segments.flatMap Segment.text

/-- The words of the name, in order. -/
def words (s : Segmentation) : List (List Char) := s.segments.map Segment.word

/-- Whether the parts are what they should be, each by itself and next to each other. -/
structure IsProper (s : Segmentation) : Prop where
  opening : IsGap s.opening
  segments : ∀ a ∈ s.segments, a.IsProper
  meets : s.segments.IsChain Segment.Meets

instance (s : Segmentation) : Decidable s.IsProper :=
  decidable_of_iff
    (IsGap s.opening ∧ (∀ a ∈ s.segments, a.IsProper) ∧ s.segments.IsChain Segment.Meets)
    ⟨fun ⟨hopening, hsegments, hmeets⟩ => ⟨hopening, hsegments, hmeets⟩,
      fun ⟨hopening, hsegments, hmeets⟩ => ⟨hopening, hsegments, hmeets⟩⟩

end Segmentation

/-! ## Taking a name apart -/

/-- A character in front of a word makes it longer, unless that would make a hump. -/
theorem IsCamelWord.cons {c : Char} {s : List Char} (hc : isWordChar c = true) (hs : IsCamelWord s)
    (hhump : isHumpBetween [c] s = false) : IsCamelWord (c :: s) := by
  refine ⟨by simp, List.forall_mem_cons.2 ⟨hc, hs.all_wordChar⟩, ?_⟩
  cases s with
  | nil => exact List.isChain_singleton c
  | cons d s => exact List.isChain_cons_cons.2 ⟨by simpa [isHumpBetween] using hhump, hs.noHump⟩

/-- Without its first character a word is still one, if there is anything left. -/
theorem IsCamelWord.tail {c : Char} {s : List Char} (h : IsCamelWord (c :: s)) (hs : s ≠ []) :
    IsCamelWord s :=
  ⟨hs, (List.forall_mem_cons.1 h.all_wordChar).2, h.noHump.tail⟩

theorem isCamelWord_singleton {c : Char} (hc : isWordChar c = true) : IsCamelWord [c] :=
  ⟨by simp, by simpa using hc, List.isChain_singleton c⟩

/-- What is in front of a word has no say in where it ends. -/
theorem isHumpBetween_cons {s : List Char} (hs : s ≠ []) (c : Char) (t : List Char) :
    isHumpBetween (c :: s) t = isHumpBetween s t := by
  obtain ⟨d, s, rfl⟩ := List.exists_cons_of_ne_nil hs
  rfl

namespace Segmentation

/-- The segmentation with one more character in front. A letter or number goes into the first word if that
    follows directly, but for a hump; else it is a word of its own. -/
def push (c : Char) (s : Segmentation) : Segmentation :=
  if isWordChar c then
    match s.opening, s.segments with
    | [], a :: rest =>
        if isHumpBetween [c] a.word then ⟨[], ⟨[c], []⟩ :: a :: rest⟩
        else ⟨[], ⟨c :: a.word, a.gap⟩ :: rest⟩
    | gap, segments => ⟨[], ⟨[c], gap⟩ :: segments⟩
  else ⟨c :: s.opening, s.segments⟩

/-- The segmentation of a name. -/
def ofText : List Char → Segmentation
  | [] => ⟨[], []⟩
  | c :: rest => (ofText rest).push c

theorem text_push (c : Char) (s : Segmentation) : (s.push c).text = c :: s.text := by
  rw [push]
  split
  · split
    · rename_i hopening hsegments
      split <;> simp [text, hopening, hsegments, Segment.text]
    · simp [text, Segment.text]
  · rfl

theorem isProper_mk_iff {opening : List Char} {segments : List Segment} :
    IsProper ⟨opening, segments⟩ ↔ IsGap opening ∧ IsProper ⟨[], segments⟩ := by
  constructor
  · rintro ⟨hopening, hsegments, hmeets⟩
    exact ⟨hopening, by simp [IsGap], hsegments, hmeets⟩
  · rintro ⟨hopening, -, hsegments, hmeets⟩
    exact ⟨hopening, hsegments, hmeets⟩

theorem isProper_cons_iff {a : Segment} {others : List Segment} :
    IsProper ⟨[], a :: others⟩ ↔
      a.IsProper ∧ (∀ b ∈ others.head?, a.Meets b) ∧ IsProper ⟨[], others⟩ := by
  constructor
  · rintro ⟨hopening, hsegments, hmeets⟩
    rw [List.forall_mem_cons] at hsegments
    rw [List.isChain_cons] at hmeets
    exact ⟨hsegments.1, hmeets.1, hopening, hsegments.2, hmeets.2⟩
  · rintro ⟨ha, hseam, hopening, hsegments, hmeets⟩
    exact ⟨hopening, List.forall_mem_cons.2 ⟨ha, hsegments⟩, List.isChain_cons.2 ⟨hseam, hmeets⟩⟩

theorem IsProper.push {c : Char} {s : Segmentation} (h : s.IsProper) : (s.push c).IsProper := by
  obtain ⟨opening, segments⟩ := s
  obtain ⟨hopening, hproper⟩ := isProper_mk_iff.1 h
  rw [Segmentation.push]
  by_cases hc : isWordChar c = true
  · rw [if_pos hc]
    have hsingle : IsCamelWord [c] := isCamelWord_singleton hc
    cases opening with
    | cons d opening =>
        -- separators follow, and the character is a word by itself
        exact isProper_cons_iff.2 ⟨⟨hsingle, hopening⟩, by simp [Segment.Meets], hproper⟩
    | nil =>
        cases segments with
        | nil => exact isProper_cons_iff.2 ⟨⟨hsingle, hopening⟩, by simp, hproper⟩
        | cons a others =>
            by_cases hhump : isHumpBetween [c] a.word = true
            · -- there is a hump behind the character, and it is a word by itself
              simp only [hhump, if_true]
              exact isProper_cons_iff.2
                ⟨⟨hsingle, hopening⟩, by simpa [Segment.Meets] using hhump, hproper⟩
            · -- the first word gets longer at its front, so the seam behind it is the same
              simp only [hhump]
              obtain ⟨⟨hword, hgap⟩, hseam, hothers⟩ := isProper_cons_iff.1 hproper
              have hlonger : IsCamelWord (c :: a.word) := hword.cons hc (by simpa using hhump)
              refine isProper_cons_iff.2 ⟨⟨hlonger, hgap⟩, fun b hb hnil => ?_, hothers⟩
              rw [isHumpBetween_cons hword.ne_nil]
              exact hseam b hb hnil
  · rw [if_neg hc]
    exact isProper_mk_iff.2 ⟨List.forall_mem_cons.2 ⟨by simpa using hc, hopening⟩, hproper⟩

theorem text_ofText (name : List Char) : (ofText name).text = name := by
  induction name with
  | nil => rfl
  | cons c rest ih => rw [ofText, text_push, ih]

theorem isProper_ofText (name : List Char) : (ofText name).IsProper := by
  induction name with
  | nil => exact ⟨by simp [ofText, IsGap], by simp [ofText], List.isChain_nil⟩
  | cons c rest ih => exact ih.push

/-- The first character of a name comes off a segmentation in one way only. -/
theorem IsProper.exists_push_eq {s : Segmentation} (h : s.IsProper) {c : Char} {rest : List Char}
    (htext : s.text = c :: rest) : ∃ t : Segmentation, t.IsProper ∧ t.text = rest ∧ s = t.push c := by
  obtain ⟨opening, segments⟩ := s
  obtain ⟨hopening, hproper⟩ := isProper_mk_iff.1 h
  cases opening with
  | cons d opening =>
      rw [text, List.cons_append, List.cons.injEq] at htext
      obtain ⟨rfl, hrest⟩ := htext
      rw [IsGap, List.forall_mem_cons] at hopening
      exact ⟨⟨opening, segments⟩, isProper_mk_iff.2 ⟨hopening.2, hproper⟩, hrest,
        by simp [Segmentation.push, hopening.1]⟩
  | nil =>
      cases segments with
      | nil => simp [text] at htext
      | cons a others =>
          obtain ⟨word, gap⟩ := a
          obtain ⟨⟨hword, hgap⟩, hseam, hothers⟩ := isProper_cons_iff.1 hproper
          obtain ⟨d, word, rfl⟩ := List.exists_cons_of_ne_nil hword.ne_nil
          obtain ⟨rfl, hrest⟩ : d = c ∧ word ++ gap ++ others.flatMap Segment.text = rest := by
            simpa [text, Segment.text] using htext
          have hd := hword.all_wordChar d List.mem_cons_self
          cases word with
          | nil =>
              -- the first word goes, and its separators are now what the name opens with
              refine ⟨⟨gap, others⟩, isProper_mk_iff.2 ⟨hgap, hothers⟩,
                by simpa [text] using hrest, ?_⟩
              cases gap with
              | cons e gap => simp [Segmentation.push, hd]
              | nil =>
                  cases others with
                  | nil => simp [Segmentation.push, hd]
                  | cons b others =>
                      have hhump : isHumpBetween [d] b.word = true := hseam b rfl rfl
                      simp [Segmentation.push, hd, hhump]
          | cons e word =>
              have hjoins : isHumpBetween [d] (e :: word) = false :=
                (List.isChain_cons_cons.1 hword.noHump).1
              refine ⟨⟨[], ⟨e :: word, gap⟩ :: others⟩, ?_, by simpa [text, Segment.text] using hrest,
                by simp [Segmentation.push, hd, hjoins]⟩
              refine isProper_cons_iff.2 ⟨⟨hword.tail (by simp), hgap⟩, fun b hb hnil => ?_, hothers⟩
              rw [← isHumpBetween_cons (by simp) d]
              exact hseam b hb hnil

theorem IsProper.eq_ofText {name : List Char} {s : Segmentation} (h : s.IsProper) (htext : s.text = name) :
    s = ofText name := by
  induction name generalizing s with
  | nil =>
      obtain ⟨opening, segments⟩ := s
      rw [text, List.append_eq_nil_iff] at htext
      obtain ⟨rfl, hsegments⟩ := htext
      cases segments with
      | nil => rfl
      | cons a others =>
          have hword := (h.segments a List.mem_cons_self).1.ne_nil
          simp [Segment.text, hword] at hsegments
  | cons c rest ih =>
      obtain ⟨t, ht, hrest, rfl⟩ := h.exists_push_eq htext
      rw [ofText, ← ih ht hrest]

end Segmentation

/-! ## Words of a segmentation -/

theorem camelWords_of_isCamelWord {word : List Char} (h : IsCamelWord word) : camelWords word = [word] := by
  have hne := h.ne_nil
  have hsplit : word.splitOnP (fun c => !isWordChar c) = [word] :=
    List.splitOnP_eq_singleton fun c hc => by simp [h.all_wordChar c hc]
  rw [camelWords, spaceHumps_eq_self h.noHump, hsplit]
  simp [hne]

theorem camelWords_word_append {word : List Char} (h : IsCamelWord word) {s : List Char}
    (hseam : ∀ c ∈ word.getLast?, ∀ d ∈ s.head?, isSeam c d = true) :
    camelWords (word ++ s) = word :: camelWords s := by
  cases s with
  | nil => rw [List.append_nil, camelWords_of_isCamelWord h]; rfl
  | cons d s =>
      obtain ⟨word, c, rfl⟩ := (List.eq_nil_or_concat' word).resolve_left h.ne_nil
      have hcut := camelWords_append_cons_cons (hseam c (by simp) d rfl) word s
      rw [List.append_assoc, List.singleton_append, hcut, camelWords_of_isCamelWord h]
      rfl

theorem isSeam_of_meets {a : Segment} {others : List Segment} (hgap : IsGap a.gap)
    (hmeets : ∀ b ∈ others.head?, a.Meets b ∧ b.word ≠ []) :
    ∀ c ∈ a.word.getLast?, ∀ d ∈ (a.gap ++ others.flatMap Segment.text).head?, isSeam c d = true := by
  intro c hc d hd
  cases hcases : a.gap with
  | cons e gap =>
      -- a separator stands behind the word
      obtain rfl : e = d := by simpa [hcases] using hd
      simp [isSeam, hgap e (by simp [hcases])]
  | nil =>
      -- the next word stands behind the word
      cases others with
      | nil => simp [hcases] at hd
      | cons b others =>
          obtain ⟨hhump, hne⟩ := hmeets b rfl
          have hhump : isHumpBetween a.word b.word = true := hhump hcases
          obtain ⟨e, word, hcons⟩ := List.exists_cons_of_ne_nil hne
          obtain rfl : e = d := by simpa [hcases, Segment.text, hcons] using hd
          rw [isHumpBetween, hc, hcons] at hhump
          simpa [isSeam] using Or.inr hhump

theorem camelWords_flatMap_text {segments : List Segment}
    (h : Segmentation.IsProper ⟨[], segments⟩) :
    camelWords (segments.flatMap Segment.text) = segments.map Segment.word := by
  induction segments with
  | nil => rfl
  | cons a others ih =>
      obtain ⟨⟨hword, hgap⟩, hseam, hothers⟩ := Segmentation.isProper_cons_iff.1 h
      have hmeets : ∀ b ∈ others.head?, a.Meets b ∧ b.word ≠ [] := fun b hb =>
        ⟨hseam b hb, (hothers.segments b (List.mem_of_mem_head? hb)).1.ne_nil⟩
      rw [List.flatMap_cons, Segment.text, List.append_assoc,
        camelWords_word_append hword (isSeam_of_meets hgap hmeets), camelWords_gap_append hgap, ih hothers,
        List.map_cons]

theorem Segmentation.IsProper.camelWords_text {s : Segmentation} (h : s.IsProper) :
    camelWords s.text = s.words := by
  obtain ⟨hopening, hproper⟩ := Segmentation.isProper_mk_iff.1 h
  rw [text, camelWords_gap_append hopening, camelWords_flatMap_text hproper]
  rfl

/-! ## Camel case -/

/-- A name is taken apart in one way only. In camel case it is the small form of its first word and then its
    other words, each with a capital; so it is the same for other separators in a place that has some, and for
    more of them at the ends. -/
theorem lowerCamel_of_words (name : String) :
    (∃! s : Segmentation, s.IsProper ∧ s.text = name.toList) ∧
    (∀ s : Segmentation, s.IsProper → s.text = name.toList →
      (lowerCamel name).toList =
        match s.words with
        | [] => []
        | first :: later => lowerText first ++ later.flatMap capitalized) ∧
    (∀ before gap other behind : String, name = before ++ gap ++ behind → gap ≠ "" → other ≠ "" →
      IsGap gap.toList → IsGap other.toList →
      lowerCamel (before ++ other ++ behind) = lowerCamel name) ∧
    ∀ before behind : String, IsGap before.toList → IsGap behind.toList →
      lowerCamel (before ++ name ++ behind) = lowerCamel name := by
  refine ⟨?_, ?_, ?_, ?_⟩
  · refine ⟨Segmentation.ofText name.toList,
      ⟨Segmentation.isProper_ofText _, Segmentation.text_ofText _⟩, ?_⟩
    rintro s ⟨hs, htext⟩
    exact hs.eq_ofText htext
  · intro s hs htext
    rw [lowerCamel, String.toList_ofList, ← htext, hs.camelWords_text]
    rfl
  · rintro before gap other behind rfl hgap hother hisGap hisOther
    have hgap : gap.toList ≠ [] := by simpa using hgap
    have hother : other.toList ≠ [] := by simpa using hother
    simp only [lowerCamel, String.toList_append]
    rw [camelWords_append_gap_append hisGap hgap, camelWords_append_gap_append hisOther hother]
  · intro before behind hbefore hbehind
    simp only [lowerCamel, String.toList_append]
    rw [List.append_assoc, camelWords_gap_append hbefore, camelWords_append_gap hbehind]

/-- A name with both kinds of seam: two separators in a row, and a hump. -/
theorem lowerCamel_of_words_mixed :
    lowerCamel "HTTP__serverName" = "httpServerName" ∧
      lowerCamel ("HTTP" ++ "-" ++ "serverName") = lowerCamel "HTTP__serverName" ∧
      lowerCamel (" (" ++ "HTTP__serverName" ++ ")") = lowerCamel "HTTP__serverName" := by
  have h := lowerCamel_of_words "HTTP__serverName"
  have hproper : Segmentation.IsProper ⟨[], [⟨"HTTP".toList, "__".toList⟩, ⟨"server".toList, []⟩,
      ⟨"Name".toList, []⟩]⟩ := by
    decide +kernel
  have hwords := h.2.1 _ hproper (by decide)
  refine ⟨String.toList_injective (hwords.trans (by decide +kernel)), ?_, ?_⟩
  · exact h.2.2.1 "HTTP" "__" "-" "serverName" (by decide) (by decide) (by decide) (by decide +kernel)
      (by decide +kernel)
  · exact h.2.2.2 " (" ")" (by decide +kernel) (by decide +kernel)

end CodeBlock.Text
