import CodeBlock.Proofs.Shell.Comparing
import Mathlib.Data.List.Destutter
import Mathlib.Data.List.Count

set_option autoImplicit false

/-! # Lines in order

The tool that puts lines in order gives the lines that it gets, each behind those that come before it, and
those that come together in the order that they were in; where only one of these is wanted, it gives one. The
check for order finds nothing in what it gives. Two files in order are told apart line by line: what both have
of a line is what the one has that has it less often. -/

namespace CodeBlock.Shell

open Std (TransCmp OrientedCmp)

namespace LineOrder

variable {o : LineOrder} {lines : List (List Char)}

/-! ## Putting lines in order -/

def MayPrecede (o : LineOrder) (a b : List Char) : Prop :=
  o.compare a b ≠ .gt ∧ (o.unique = true → o.compare a b ≠ .eq)

theorem MayPrecede.trans (h : o.IsExact) {a b c : List Char} (hab : o.MayPrecede a b) (hbc : o.MayPrecede b c) :
    o.MayPrecede a c := by
  have := transCmp h
  have hle := TransCmp.isLE_trans (Ordering.isLE_iff_ne_gt.2 hab.1) (Ordering.isLE_iff_ne_gt.2 hbc.1)
  refine ⟨Ordering.isLE_iff_ne_gt.1 hle, fun hu heq => ?_⟩
  -- what comes first and together with the last comes together with what is between them
  have hlt : o.compare a b = .lt := by
    have := hab.1
    have := hab.2 hu
    cases hcompare : o.compare a b <;> simp_all
  have hba := TransCmp.isLE_trans (Ordering.isLE_iff_ne_gt.2 hbc.1)
    (Ordering.isLE_of_eq_eq (OrientedCmp.eq_symm heq))
  exact OrientedCmp.not_isLE_of_lt hlt hba

theorem withoutEqual_eq (o : LineOrder) (lines : List (List Char)) :
    o.withoutEqual lines = lines.destutter fun a b => o.compare a b ≠ .eq := by
  fun_induction o.withoutEqual lines with
  | case1 a b rest heq ih =>
      have heq' : ¬ o.compare a b ≠ .eq := not_not.2 (eq_of_beq heq)
      rw [ih, List.destutter_cons_cons, if_neg heq', List.destutter_cons']
  | case2 a b rest hne ih =>
      have hne' : o.compare a b ≠ .eq := by simpa using hne
      rw [ih, List.destutter_cons_cons, if_pos hne', List.destutter_cons']
  | case3 lines h =>
      match lines with
      | [] => rfl
      | [a] => rfl
      | a :: b :: rest => exact absurd rfl (h a b rest)

theorem withoutEqual_sublist (o : LineOrder) (lines : List (List Char)) :
    (o.withoutEqual lines).Sublist lines := by
  rw [withoutEqual_eq]
  exact List.destutter_sublist _ lines

/-- Of lines that come together one stays. -/
theorem exists_mem_withoutEqual (h : o.IsExact) :
    ∀ x ∈ lines, ∃ y ∈ o.withoutEqual lines, o.compare x y = .eq := by
  have := transCmp h
  fun_induction o.withoutEqual lines with
  | case1 a b rest heq ih =>
      obtain ⟨ha, hrest⟩ := List.forall_mem_cons.1 ih
      obtain ⟨y, hy, hay⟩ := ha
      have hb : o.compare b y = .eq := TransCmp.eq_trans (OrientedCmp.eq_symm (eq_of_beq heq)) hay
      exact List.forall_mem_cons.2 ⟨⟨y, hy, hay⟩, List.forall_mem_cons.2 ⟨⟨y, hy, hb⟩, hrest⟩⟩
  | case2 a b rest hne ih =>
      refine List.forall_mem_cons.2 ⟨⟨a, List.mem_cons_self, Std.ReflCmp.compare_self⟩, fun x hx => ?_⟩
      obtain ⟨y, hy, hxy⟩ := ih x hx
      exact ⟨y, List.mem_cons_of_mem a hy, hxy⟩
  | case3 lines => exact fun x hx => ⟨x, hx, Std.ReflCmp.compare_self⟩

theorem pairwise_withoutEqual (h : o.IsExact) (hsorted : lines.Pairwise fun a b => o.compare a b ≠ .gt) :
    (o.withoutEqual lines).Pairwise fun a b => o.compare a b = .lt := by
  have := transCmp h
  fun_induction o.withoutEqual lines with
  | case1 a b rest heq ih => exact ih (hsorted.sublist (List.sublist_cons_self b rest |>.cons_cons a))
  | case2 a b rest hne ih =>
      have hb := List.pairwise_cons.1 hsorted.of_cons
      have hab : o.compare a b = .lt := by
        have := (List.pairwise_cons.1 hsorted).1 b List.mem_cons_self
        cases hcompare : o.compare a b <;> simp_all
      refine List.pairwise_cons.2 ⟨fun y hy => ?_, ih hsorted.of_cons⟩
      rcases List.mem_cons.1 ((o.withoutEqual_sublist (b :: rest)).subset hy) with rfl | hy
      · exact hab
      · exact TransCmp.lt_of_lt_of_isLE hab (Ordering.isLE_iff_ne_gt.2 (hb.1 y hy))
  | case3 lines hshort =>
      match lines with
      | [] => exact .nil
      | [a] => exact List.pairwise_singleton _ a
      | a :: b :: rest => exact absurd rfl (hshort a b rest)

theorem trans_ne_gt (h : o.IsExact) (a b c : List Char) :
    (o.compare a b != .gt) = true → (o.compare b c != .gt) = true → (o.compare a c != .gt) = true := by
  have := transCmp h
  simp only [bne_iff_ne, ← Ordering.isLE_iff_ne_gt]
  exact TransCmp.isLE_trans

theorem total_ne_gt (h : o.IsExact) (a b : List Char) :
    (o.compare a b != .gt || o.compare b a != .gt) = true := by
  have := transCmp h
  have hswap : o.compare b a = (o.compare a b).swap := OrientedCmp.eq_swap
  rw [hswap]
  cases o.compare a b <;> rfl

/-- Lines that have been put in order stand in order. -/
theorem pairwise_sort (h : o.IsExact) (lines : List (List Char)) : (o.sort lines).Pairwise o.MayPrecede := by
  have hsorted := (List.pairwise_mergeSort (trans_ne_gt h) (total_ne_gt h) lines).imp bne_iff_ne.1
  unfold sort
  cases hu : o.unique with
  | false => exact hsorted.imp fun hab => ⟨hab, by simp [hu]⟩
  | true => exact (pairwise_withoutEqual h hsorted).imp fun hab => ⟨by simp [hab], by simp [hab]⟩

theorem sort_perm (hu : o.unique = false) (lines : List (List Char)) : (o.sort lines).Perm lines := by
  rw [sort, hu, if_neg Bool.false_ne_true]
  exact List.mergeSort_perm lines _

/-- Lines that come together stay in the order that they were in. -/
theorem filter_sort (h : o.IsExact) (hu : o.unique = false) (lines : List (List Char)) (x : List Char) :
    (o.sort lines).filter (o.compare x · == .eq) = lines.filter (o.compare x · == .eq) := by
  have := transCmp h
  have htogether : (lines.filter (o.compare x · == .eq)).Pairwise fun a b => o.compare a b != .gt := by
    refine List.pairwise_of_forall_mem_list fun a ha b hb => ?_
    have hxa := eq_of_beq (List.mem_filter.1 ha).2
    have hxb := eq_of_beq (List.mem_filter.1 hb).2
    rw [TransCmp.eq_trans (OrientedCmp.eq_symm hxa) hxb]
    rfl
  have hsublist : (lines.filter (o.compare x · == .eq)).Sublist (o.sort lines) := by
    rw [sort, hu, if_neg Bool.false_ne_true]
    exact List.sublist_mergeSort (trans_ne_gt h) (total_ne_gt h) htogether List.filter_sublist
  have hfilter := hsublist.filter (o.compare x · == .eq)
  rw [List.filter_filter] at hfilter
  simp only [Bool.and_self] at hfilter
  exact (hfilter.eq_of_length ((sort_perm hu lines).filter _).length_eq.symm).symm

/-- Where only one is wanted of lines that come together, one is given of them, and it is one that there was. -/
theorem mem_sort_of_unique (h : o.IsExact) (hu : o.unique = true) (lines : List (List Char)) :
    (∀ x ∈ o.sort lines, x ∈ lines) ∧ ∀ x ∈ lines, ∃ y ∈ o.sort lines, o.compare x y = .eq := by
  have hmem : ∀ x, x ∈ lines.mergeSort (fun a b => o.compare a b != .gt) ↔ x ∈ lines := fun x =>
    List.mem_mergeSort
  rw [sort, if_pos hu]
  refine ⟨fun x hx => (hmem x).1 ((withoutEqual_sublist o _).subset hx), fun x hx => ?_⟩
  exact exists_mem_withoutEqual h x ((hmem x).2 hx)

/-! ## Checking the order -/

theorem disorder?_eq_none_iff (h : o.IsExact) (n : Nat) :
    o.disorder? n lines = none ↔ lines.Pairwise o.MayPrecede := by
  have hstep : ∀ a b, (o.compare a b == .gt || (o.unique && o.compare a b == .eq)) = false ↔ o.MayPrecede a b := by
    intro a b
    unfold MayPrecede
    cases o.compare a b <;> cases o.unique <;> simp
  fun_induction o.disorder? n lines with
  | case1 n a b rest result hgt =>
      refine iff_of_false (by simp) fun hsorted => ?_
      have hab := (hstep a b).2 ((List.pairwise_cons.1 hsorted).1 b List.mem_cons_self)
      exact absurd hgt (by simp [result, hab])
  | case2 n a b rest result hgt ih =>
      have hab := (hstep a b).1 (Bool.eq_false_iff.2 hgt)
      refine ih.trans (Iff.trans ?_ List.pairwise_cons.symm)
      refine ⟨fun hsorted => ⟨List.forall_mem_cons.2 ⟨hab, fun y hy => ?_⟩, hsorted⟩, And.right⟩
      exact hab.trans h ((List.pairwise_cons.1 hsorted).1 y hy)
  | case3 lines n hshort =>
      refine iff_of_true rfl ?_
      match lines with
      | [] => exact .nil
      | [a] => exact List.pairwise_singleton _ a
      | a :: b :: rest => exact absurd rfl (hshort a b rest)

/-- The check for order finds nothing in lines that have been put in order. -/
theorem disorder?_sort (h : o.IsExact) (n : Nat) (lines : List (List Char)) :
    o.disorder? n (o.sort lines) = none :=
  (disorder?_eq_none_iff h n).2 (pairwise_sort h lines)

end LineOrder

/-! ## Two files in order -/

/-- What is shown of two files are the lines of the one, and those of the other. -/
theorem map_compareLines {fuel : Nat} {a b : List (List Char)} (hfuel : a.length + b.length < fuel) :
    ((compareLines fuel a b).filter (·.1 != 2)).map Prod.snd = a ∧
      ((compareLines fuel a b).filter (·.1 != 1)).map Prod.snd = b := by
  fun_induction compareLines fuel a b with
  | case1 => omega
  | case2 fuel b => simp [List.filter_map, Function.comp_def]
  | case3 fuel a hne => simp [List.filter_map, Function.comp_def]
  | case4 fuel a restA b restB hlt ih =>
      obtain ⟨hleft, hright⟩ := ih (by simp only [List.length_cons] at hfuel ⊢; omega)
      simp [List.filter_cons, hleft, hright]
  | case5 fuel a restA b restB hgt ih =>
      obtain ⟨hleft, hright⟩ := ih (by simp only [List.length_cons] at hfuel ⊢; omega)
      simp [List.filter_cons, hleft, hright]
  | case6 fuel a restA b restB heq ih =>
      obtain ⟨hleft, hright⟩ := ih (by simp only [List.length_cons] at hfuel; omega)
      obtain rfl : a = b := Std.LawfulEqOrd.eq_of_compare heq
      simp [List.filter_cons, hleft, hright]

/-- Of a line, two files in order have in common what the one has that has it less often. -/
theorem count_compareLines {fuel : Nat} {a b : List (List Char)} (hfuel : a.length + b.length < fuel)
    (ha : a.Pairwise fun x y => Ord.compare x y ≠ .gt) (hb : b.Pairwise fun x y => Ord.compare x y ≠ .gt)
    (line : List Char) :
    (compareLines fuel a b).count (3, line) = min (a.count line) (b.count line) := by
  -- a line that comes before all of a file is not in it
  have hbefore : ∀ {x y : List Char} {rest : List (List Char)}, Ord.compare x y = .lt →
      (y :: rest).Pairwise (fun x y => Ord.compare x y ≠ .gt) → (y :: rest).count x = 0 := by
    intro x y rest hlt hsorted
    refine List.count_eq_zero.2 fun hmem => ?_
    rcases List.mem_cons.1 hmem with rfl | hmem
    · simp [Std.ReflCmp.compare_self] at hlt
    · exact (List.pairwise_cons.1 hsorted).1 x hmem (OrientedCmp.gt_of_lt hlt)
  fun_induction compareLines fuel a b with
  | case1 => omega
  | case2 fuel b => simp [List.count_eq_zero]
  | case3 fuel a hne => simp [List.count_eq_zero]
  | case4 fuel a restA b restB hlt ih =>
      have hrest := ih (by simp only [List.length_cons] at hfuel ⊢; omega) ha.of_cons hb
      have hnone := hbefore hlt hb
      rw [List.count_cons_of_ne (by simp), hrest]
      by_cases hline : a = line
      · subst hline
        rw [hnone, Nat.min_zero, Nat.min_zero]
      · rw [List.count_cons_of_ne hline]
  | case5 fuel a restA b restB hgt ih =>
      have hrest := ih (by simp only [List.length_cons] at hfuel ⊢; omega) ha hb.of_cons
      have hnone := hbefore (OrientedCmp.lt_of_gt hgt) ha
      rw [List.count_cons_of_ne (by simp), hrest]
      by_cases hline : b = line
      · subst hline
        rw [hnone, Nat.zero_min, Nat.zero_min]
      · rw [List.count_cons_of_ne hline]
  | case6 fuel a restA b restB heq ih =>
      have hrest := ih (by simp only [List.length_cons] at hfuel; omega) ha.of_cons hb.of_cons
      obtain rfl : a = b := Std.LawfulEqOrd.eq_of_compare heq
      by_cases hline : a = line
      · subst hline
        simp only [List.count_cons_self, hrest]
        omega
      · rw [List.count_cons_of_ne (by simpa using hline), List.count_cons_of_ne hline,
          List.count_cons_of_ne hline, hrest]

end CodeBlock.Shell
