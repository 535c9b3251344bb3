import CodeBlock.Shell.Pattern
import Mathlib.Data.List.Infix

set_option autoImplicit false

/-! # What patterns accept

A pattern accepts the texts that its parts make up, each part one character or, for a star, any text. What is
taken from the start or the end of a text by a pattern is as little or as much as the pattern accepts there,
and nothing is taken just if it accepts none. -/

namespace CodeBlock.Shell

/-- The texts that a pattern describes, part by part. -/
inductive Pattern.Matches : Pattern → List Char → Prop where
  | nil : Matches [] []
  | exactly {parts : Pattern} {s : List Char} (c : Char) (h : Matches parts s) :
      Matches (.exactly c :: parts) (c :: s)
  | anyChar {parts : Pattern} {s : List Char} (c : Char) (h : Matches parts s) :
      Matches (.anyChar :: parts) (c :: s)
  | anyText {parts : Pattern} {s : List Char} (start : List Char) (h : Matches parts s) :
      Matches (.anyText :: parts) (start ++ s)
  | among {parts : Pattern} {s : List Char} {ranges : List (Char × Char)} {c : Char}
      (hc : ∃ range ∈ ranges, range.1 ≤ c ∧ c ≤ range.2) (h : Matches parts s) :
      Matches (.among false ranges :: parts) (c :: s)
  | notAmong {parts : Pattern} {s : List Char} {ranges : List (Char × Char)} {c : Char}
      (hc : ¬ ∃ range ∈ ranges, range.1 ≤ c ∧ c ≤ range.2) (h : Matches parts s) :
      Matches (.among true ranges :: parts) (c :: s)

theorem endsOf_eq_tails (s : List Char) : endsOf s = s.tails := by
  induction s with
  | nil => rfl
  | cons c rest ih => rw [endsOf, ih, List.tails]

theorem inRanges_eq_true_iff {ranges : List (Char × Char)} {c : Char} :
    inRanges ranges c = true ↔ ∃ range ∈ ranges, range.1 ≤ c ∧ c ≤ range.2 := by
  simp [inRanges]

theorem Pattern.accepts_iff {p : Pattern} {s : List Char} : p.accepts s = true ↔ p.Matches s := by
  constructor
  · intro h
    fun_induction Pattern.accepts p s with
    | case1 s =>
        obtain rfl := List.isEmpty_iff.1 h
        exact .nil
    | case2 parts s ih =>
        obtain ⟨rest, hrest, haccepts⟩ := List.any_eq_true.1 h
        rw [endsOf_eq_tails, List.mem_tails] at hrest
        obtain ⟨start, rfl⟩ := hrest
        exact .anyText start (ih rest haccepts)
    | case3 => exact absurd h Bool.false_ne_true
    | case4 d parts c s ih =>
        rw [Bool.and_eq_true] at h
        obtain rfl := eq_of_beq h.1
        exact .exactly c (ih h.2)
    | case5 parts c s ih => exact .anyChar c (ih h)
    | case6 negated ranges parts c s ih =>
        rw [Bool.and_eq_true] at h
        cases negated with
        | false => exact .among (inRanges_eq_true_iff.1 (by simpa using h.1)) (ih h.2)
        | true => exact .notAmong (inRanges_eq_true_iff.not.1 (by simpa using h.1)) (ih h.2)
  · intro h
    induction h with
    | nil => rfl
    | exactly c _ ih => simpa [accepts] using ih
    | anyChar c _ ih => simpa [accepts] using ih
    | @anyText parts s start _ ih =>
        rw [accepts, List.any_eq_true, endsOf_eq_tails]
        exact ⟨s, (List.mem_tails _ _).2 (List.suffix_append start s), ih⟩
    | among hc _ ih => simp [accepts, inRanges_eq_true_iff.2 hc, ih]
    | notAmong hc _ ih =>
        have hnone := Bool.eq_false_iff.2 (inRanges_eq_true_iff.not.2 hc)
        simp [accepts, hnone, ih]

theorem readPattern_quoted {n : Nat} {text : List Char} (h : text.length ≤ n) :
    readPattern n (text.map fun c => (c, true)) = text.map .exactly := by
  induction text generalizing n with
  | nil => cases n <;> rfl
  | cons c text ih =>
      cases n with
      | zero => simp at h
      | succ n => simp only [List.map_cons, readPattern, if_true, ih (Nat.le_of_succ_le_succ h)]

/-- What is quoted in a pattern stands for itself. -/
theorem Pattern.accepts_ofMarked_quoted_iff {text s : List Char} :
    (Pattern.ofMarked (text.map fun c => (c, true))).accepts s = true ↔ s = text := by
  rw [Pattern.ofMarked, readPattern_quoted (List.length_map _).ge]
  induction text generalizing s with
  | nil => simp [accepts]
  | cons d text ih => cases s <;> simp [accepts, ih]

/-! ## Taking off what a pattern accepts -/

/-- Of what stands in order, the first one is found that something holds of. -/
theorem find?_eq_some_iff_of_pairwise {r : List Char → List Char → Prop} (hr : ∀ {a b}, r a b → ¬ r b a)
    {row : List (List Char)} (hrow : row.Pairwise r) {holds : List Char → Bool} {t : List Char} :
    row.find? holds = some t ↔ t ∈ row ∧ holds t = true ∧ ∀ u ∈ row, holds u = true → ¬ r u t := by
  induction row with
  | nil => simp
  | cons x row ih =>
      obtain ⟨hx, hrow⟩ := List.pairwise_cons.1 hrow
      rw [List.find?_cons]
      cases hholds : holds x with
      | true =>
        constructor
        · intro h
          obtain rfl := Option.some.inj h
          exact ⟨List.mem_cons_self, hholds,
            List.forall_mem_cons.2 ⟨fun _ hself => hr hself hself, fun u hu _ => hr (hx u hu)⟩⟩
        · rintro ⟨hmem, -, hfirst⟩
          rcases List.mem_cons.1 hmem with rfl | hmem
          · rfl
          · exact absurd (hx t hmem) (hfirst x List.mem_cons_self hholds)
      | false =>
        rw [ih hrow]
        constructor
        · rintro ⟨hmem, ht, hfirst⟩
          exact ⟨List.mem_cons_of_mem x hmem, ht, List.forall_mem_cons.2 ⟨by simp [hholds], hfirst⟩⟩
        · rintro ⟨hmem, ht, hfirst⟩
          rcases List.mem_cons.1 hmem with rfl | hmem
          · exact absurd ht (by simp [hholds])
          · exact ⟨hmem, ht, (List.forall_mem_cons.1 hfirst).2⟩

def endsFrom (longest : Bool) (s : List Char) : List (List Char) := if longest then s.tails else s.tails.reverse

theorem find?_endsFrom_eq_some_iff {longest : Bool} {s t : List Char} {holds : List Char → Bool} :
    (endsFrom longest s).find? holds = some t ↔
      t <:+ s ∧ holds t = true ∧ ∀ u, u <:+ s → holds u = true →
        if longest then u.length ≤ t.length else t.length ≤ u.length := by
  have htails : s.tails.Pairwise fun a b => b.length < a.length := by
    induction s with
    | nil => exact List.pairwise_singleton _ _
    | cons c s ih =>
        refine List.pairwise_cons.2 ⟨fun t ht => ?_, ih⟩
        exact Nat.lt_succ_of_le ((List.mem_tails _ _).1 ht).length_le
  cases longest with
  | true =>
    simpa only [endsFrom, if_true, List.mem_tails, Nat.not_lt] using
      find?_eq_some_iff_of_pairwise (fun h => Nat.lt_asymm h) htails
  | false =>
    simpa only [endsFrom, Bool.false_eq_true, if_false, List.mem_reverse, List.mem_tails, Nat.not_lt] using
      find?_eq_some_iff_of_pairwise (fun h => Nat.lt_asymm h) (List.pairwise_reverse.2 htails)

theorem take_of_append_eq {s start rest : List Char} (h : start ++ rest = s) :
    s.take (s.length - rest.length) = start := by
  rw [← h, List.length_append, Nat.add_sub_cancel, List.take_left]

/-- A start is taken off a text that the pattern accepts, as little or as much as there is of such. -/
theorem withoutStart?_eq_some_iff {p : Pattern} {longest : Bool} {s rest : List Char} :
    withoutStart? longest p s = some rest ↔
      ∃ start, start ++ rest = s ∧ p.Matches start ∧ ∀ start' rest', start' ++ rest' = s → p.Matches start' →
        if longest then start'.length ≤ start.length else start.length ≤ start'.length := by
  have hends : (if longest then (endsOf s).reverse else endsOf s) = endsFrom (!longest) s := by
    rw [endsOf_eq_tails]
    cases longest <;> rfl
  have hstart : ∀ {start t}, start ++ t = s →
      (p.accepts (s.take (s.length - t.length)) = true ↔ p.Matches start) := fun h => by
    rw [take_of_append_eq h, Pattern.accepts_iff]
  rw [withoutStart?, hends, find?_endsFrom_eq_some_iff]
  constructor
  · rintro ⟨⟨start, hs⟩, haccepts, hfirst⟩
    refine ⟨start, hs, (hstart hs).1 haccepts, fun start' rest' hs' hmatches => ?_⟩
    have hle := hfirst rest' ⟨start', hs'⟩ ((hstart hs').2 hmatches)
    have hlength := congrArg List.length (hs.trans hs'.symm)
    rw [List.length_append, List.length_append] at hlength
    cases longest <;> simp at hle ⊢ <;> omega
  · rintro ⟨start, hs, hmatches, hfirst⟩
    refine ⟨⟨start, hs⟩, (hstart hs).2 hmatches, ?_⟩
    rintro rest' ⟨start', hs'⟩ haccepts
    have hle := hfirst start' rest' hs' ((hstart hs').1 haccepts)
    have hlength := congrArg List.length (hs.trans hs'.symm)
    rw [List.length_append, List.length_append] at hlength
    cases longest <;> simp at hle ⊢ <;> omega

/-- So is an end. -/
theorem withoutEnd?_eq_some_iff {p : Pattern} {longest : Bool} {s rest : List Char} :
    withoutEnd? longest p s = some rest ↔
      ∃ last, rest ++ last = s ∧ p.Matches last ∧ ∀ rest' last', rest' ++ last' = s → p.Matches last' →
        if longest then last'.length ≤ last.length else last.length ≤ last'.length := by
  have hends : (if longest then endsOf s else (endsOf s).reverse) = endsFrom longest s := by
    rw [endsOf_eq_tails, endsFrom]
  simp only [withoutEnd?, hends, Option.map_eq_some_iff, find?_endsFrom_eq_some_iff, Pattern.accepts_iff]
  constructor
  · rintro ⟨last, ⟨⟨before, hs⟩, hmatches, hfirst⟩, rfl⟩
    rw [take_of_append_eq hs]
    exact ⟨last, hs, hmatches, fun rest' last' hs' => hfirst last' ⟨rest', hs'⟩⟩
  · rintro ⟨last, hs, hmatches, hfirst⟩
    refine ⟨last, ⟨⟨rest, hs⟩, hmatches, ?_⟩, take_of_append_eq hs⟩
    rintro last' ⟨rest', hs'⟩
    exact hfirst rest' last' hs'

end CodeBlock.Shell
