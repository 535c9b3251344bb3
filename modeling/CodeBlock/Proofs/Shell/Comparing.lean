import CodeBlock.Shell.Tool.Order
import Mathlib.Data.List.TakeWhile
import Mathlib.Tactic.Positivity
import Mathlib.Tactic.Ring

set_option autoImplicit false

/-! # Ways of comparing lines

The lines that are put in order are compared as texts, as numbers, by months or as versions, by several keys
one after the other, and in reverse. Each of these is an order in which of two texts one comes first or both
come together, and in which nothing goes round in circles. Numbers with powers of ten are left out: they are
only compared up to a difference of the powers. -/

namespace CodeBlock.Shell

open Std (TransCmp OrientedCmp)

/-- What any three texts are compared as may be chosen anew for them. -/
theorem transCmp_of_values {α β : Type} {cmp : α → α → Ordering}
    (h : ∀ a b c, ∃ (cmp' : β → β → Ordering) (f : α → β), TransCmp cmp' ∧
      ∀ x ∈ [a, b, c], ∀ y ∈ [a, b, c], cmp x y = cmp' (f x) (f y)) : TransCmp cmp where
  eq_swap := by
    intro a b
    obtain ⟨cmp', f, htrans, hf⟩ := h a b b
    rw [hf a (by simp) b (by simp), hf b (by simp) a (by simp)]
    exact OrientedCmp.eq_swap
  isLE_trans := by
    intro a b c hab hbc
    obtain ⟨cmp', f, htrans, hf⟩ := h a b c
    rw [hf a (by simp) b (by simp)] at hab
    rw [hf b (by simp) c (by simp)] at hbc
    rw [hf a (by simp) c (by simp)]
    exact TransCmp.isLE_trans hab hbc

theorem transCmp_comp {α β : Type} (f : α → β) (cmp : β → β → Ordering) [TransCmp cmp] :
    TransCmp fun a b => cmp (f a) (f b) :=
  transCmp_of_values fun _ _ _ => ⟨cmp, f, inferInstance, fun _ _ _ _ => rfl⟩

theorem transCmp_then {α : Type} (cmp cmp' : α → α → Ordering) [TransCmp cmp] [TransCmp cmp'] :
    TransCmp fun a b => (cmp a b).then (cmp' a b) :=
  inferInstanceAs (TransCmp (compareLex cmp cmp'))

theorem transCmp_swap {α : Type} (cmp : α → α → Ordering) [TransCmp cmp] :
    TransCmp fun a b => (cmp a b).swap := by
  have hswap : (fun a b => (cmp a b).swap) = fun a b => cmp b a := by
    funext a b
    exact OrientedCmp.eq_swap.symm
  rw [hswap]
  infer_instance

theorem transCmp_eq (α : Type) : TransCmp fun _ _ : α => Ordering.eq :=
  { eq_swap := rfl, isLE_trans := fun _ _ => rfl }

/-! ## Numbers -/

theorem ofDigits_append_zeros (s : List Char) (k : Nat) :
    ofDigits 10 (s ++ List.replicate k '0') = ofDigits 10 s * 10 ^ k := by
  induction k with
  | zero => simp
  | succ k ih =>
      rw [List.replicate_succ', ← List.append_assoc, ofDigits, List.foldl_append]
      change 10 * ofDigits 10 (s ++ List.replicate k '0') + 0 = _
      rw [ih, Nat.pow_succ]
      ring

namespace PlainNumber

/-- A smaller unit only makes more of them. -/
theorem inUnits_add {n : PlainNumber} {places : Nat} (h : n.fraction.length ≤ places) (k : Nat) :
    n.inUnits (places + k) = n.inUnits places * 10 ^ k := by
  have hzeros : List.replicate (places + k - n.fraction.length) '0' =
      List.replicate (places - n.fraction.length) '0' ++ List.replicate k '0' := by
    rw [List.replicate_append_replicate]
    congr 1
    omega
  simp only [inUnits, hzeros, ← List.append_assoc, ofDigits_append_zeros]
  split_ifs
  · push_cast
    ring
  · push_cast
    ring

theorem compare_eq {a b : PlainNumber} {places : Nat} (ha : a.fraction.length ≤ places)
    (hb : b.fraction.length ≤ places) :
    a.compare b = Ord.compare (a.inUnits places) (b.inUnits places) := by
  obtain ⟨k, rfl⟩ := Nat.exists_eq_add_of_le (max_le ha hb)
  have hpos : (0 : Int) < 10 ^ k := by positivity
  rw [inUnits_add (le_max_left _ _), inUnits_add (le_max_right _ _)]
  simp only [PlainNumber.compare, Ord.compare, compareOfLessAndEq, Int.mul_lt_mul_right hpos,
    Int.mul_eq_mul_right_iff hpos.ne']

instance : TransCmp PlainNumber.compare := transCmp_of_values fun a b c => by
  refine ⟨Ord.compare, fun n => n.inUnits (max a.fraction.length (max b.fraction.length c.fraction.length)),
    inferInstance, ?_⟩
  have hle : ∀ n ∈ [a, b, c],
      n.fraction.length ≤ max a.fraction.length (max b.fraction.length c.fraction.length) := by
    simp
  exact fun x hx y hy => compare_eq (hle x hx) (hle y hy)

end PlainNumber

/-! ## Versions -/

instance : TransCmp compareVersionPart :=
  have := transCmp_comp (Prod.fst : Int × Nat → Int) Ord.compare
  have := transCmp_comp (Prod.snd : Int × Nat → Nat) Ord.compare
  transCmp_then (fun x y : Int × Nat => Ord.compare x.1 y.1) fun x y => Ord.compare x.2 y.2

instance (n : Nat) : TransCmp (compareVersionParts n) := by
  induction n with
  | zero => exact transCmp_eq _
  | succ n ih =>
      have := transCmp_comp (fun xs : List (Int × Nat) => xs.headD (0, 0)) compareVersionPart
      have := transCmp_comp (List.tail : List (Int × Nat) → _) (compareVersionParts n)
      exact transCmp_then
        (fun xs ys : List (Int × Nat) => compareVersionPart (xs.headD (0, 0)) (ys.headD (0, 0)))
        fun xs ys => compareVersionParts n xs.tail ys.tail

theorem compareVersionParts_nil (n : Nat) : compareVersionParts n [] [] = .eq := by
  induction n with
  | zero => rfl
  | succ n ih =>
      rw [compareVersionParts, List.tail_nil, ih]
      rfl

/-- Behind the last part of both versions there is nothing in which they differ. -/
theorem compareVersionParts_of_le {m n : Nat} {xs ys : List (Int × Nat)} (hmn : m ≤ n) (hx : xs.length ≤ m)
    (hy : ys.length ≤ m) : compareVersionParts n xs ys = compareVersionParts m xs ys := by
  induction m generalizing n xs ys with
  | zero =>
      obtain rfl := List.length_eq_zero_iff.1 (Nat.le_zero.1 hx)
      obtain rfl := List.length_eq_zero_iff.1 (Nat.le_zero.1 hy)
      exact compareVersionParts_nil n
  | succ m ih =>
      obtain ⟨n, rfl⟩ := Nat.exists_eq_succ_of_ne_zero (Nat.ne_of_gt (Nat.zero_lt_of_lt hmn))
      rw [compareVersionParts, compareVersionParts, ih (Nat.le_of_succ_le_succ hmn)]
      · rw [List.length_tail]
        omega
      · rw [List.length_tail]
        omega

instance : TransCmp compareVersions := transCmp_of_values fun a b c => by
  let len := fun s => (versionParts s).length
  refine ⟨compareVersionParts (max (len a) (max (len b) (len c))), versionParts, inferInstance, ?_⟩
  have hle : ∀ s ∈ [a, b, c], len s ≤ max (len a) (max (len b) (len c)) := by simp
  intro x hx y hy
  exact (compareVersionParts_of_le (max_le (hle x hx) (hle y hy)) (le_max_left _ _) (le_max_right _ _)).symm

/-! ## Keys -/

/-- Whether texts are compared as what they are, and not as numbers with powers of ten. -/
def KeyOrder.IsExact (k : KeyOrder) : Prop := k.numeric = true ∨ k.general = false

theorem KeyOrder.transCmp {k : KeyOrder} (h : k.IsExact) : TransCmp k.compare := by
  have hreversed : ∀ cmp : List Char → List Char → Ordering, TransCmp cmp →
      TransCmp fun a b => if k.reversed then (cmp a b).swap else cmp a b := by
    intro cmp hcmp
    cases k.reversed with
    | true => exact transCmp_swap cmp
    | false => exact hcmp
  have hunits := transCmp_comp unitRank Ord.compare
  have hnumbers := transCmp_comp (fun s => (PlainNumber.ofText s).1) PlainNumber.compare
  unfold KeyOrder.compare
  dsimp only
  refine hreversed (fun a b => _) ?_
  rcases h with hnumeric | hgeneral
  · simpa only [hnumeric, if_true] using hnumbers
  · simp only [hgeneral, Bool.false_eq_true, if_false]
    cases k.numeric with
    | true => exact hnumbers
    | false =>
    cases k.units with
    | true => exact transCmp_then (fun a b => Ord.compare (unitRank a) (unitRank b)) _
    | false =>
    cases k.months with
    | true => exact transCmp_comp monthRank Ord.compare
    | false =>
    cases k.versions with
    | true => exact transCmp_comp _ compareVersions
    | false => exact transCmp_comp _ Ord.compare

/-- Several ways of comparing, one after the other, are in order. -/
theorem transCmp_foldl {α ι : Type} (cmp : ι → α → α → Ordering) (row : List ι)
    (h : ∀ i ∈ row, TransCmp (cmp i)) (first : α → α → Ordering) [TransCmp first] :
    TransCmp fun a b => row.foldl (fun result i => result.then (cmp i a b)) (first a b) := by
  induction row generalizing first with
  | nil => exact inferInstanceAs (TransCmp first)
  | cons i row ih =>
      have := h i List.mem_cons_self
      have := transCmp_then first (cmp i)
      exact ih (fun j hj => h j (List.mem_cons_of_mem i hj)) fun a b => (first a b).then (cmp i a b)

namespace LineOrder

/-- Whether all keys of lines are compared as what they are. -/
def IsExact (o : LineOrder) : Prop := ∀ k ∈ o.keys, k.order.IsExact

theorem transCmp {o : LineOrder} (h : o.IsExact) : TransCmp o.compare := by
  have hkeys : TransCmp o.compareKeys := by
    have := transCmp_eq (List Char)
    refine transCmp_foldl (fun (k : SortKey) a b => k.order.compare (k.text o.separator a) (k.text o.separator b))
      o.keys (fun k hk => ?_) fun _ _ => .eq
    have := KeyOrder.transCmp (h k hk)
    exact transCmp_comp (k.text o.separator) k.order.compare
  have hwhole : TransCmp fun a b : List Char => if o.reversed then Ord.compare b a else Ord.compare a b := by
    cases o.reversed with
    | true => exact inferInstanceAs (TransCmp fun a b : List Char => Ord.compare b a)
    | false => exact inferInstanceAs (TransCmp (Ord.compare : List Char → List Char → Ordering))
  have hthen := transCmp_then o.compareKeys fun a b => if o.reversed then Ord.compare b a else Ord.compare a b
  unfold LineOrder.compare
  cases !o.keys.isEmpty && (o.stable || o.unique) with
  | true => exact hkeys
  | false => exact hthen

end LineOrder

end CodeBlock.Shell
