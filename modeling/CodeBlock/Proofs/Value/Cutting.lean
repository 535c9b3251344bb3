import CodeBlock.Proofs.Value.Shaping

set_option autoImplicit false

/-! # What shaping cuts off

Shaping loses data in one way only: where a sequence is paired with names, the elements behind the last name
are left out. To say which leaves these are, each leaf is listed with its place in the value. A leaf that is
kept also keeps its place, so the leaves of a shaped value are those of the value less the ones at places that
are cut off, in the same order (`placedLeaves_shaped`). -/

namespace CodeBlock.Value

/-! ## Places -/

def parts : Value → List Value
  | .scalar _ => []
  | .sequence items => items
  | .record fields => fields.map Prod.snd

/-- The part at a place. A place is the row of numbers that lead to it, of elements and of fields. -/
def at? (v : Value) : List Nat → Option Value
  | [] => some v
  | i :: place => v.parts[i]?.bind fun part => part.at? place

/-- A leaf at a place in a part, as one at a place in the whole. -/
def under (i : Nat) (entry : List Nat × Scalar) : List Nat × Scalar := (i :: entry.1, entry.2)

mutual

def leaves : Value → List Scalar
  | .scalar leaf => [leaf]
  | .sequence items => leavesOfItems items
  | .record fields => leavesOfFields fields

/-- The leaves of the elements of a sequence. -/
def leavesOfItems : List Value → List Scalar
  | [] => []
  | item :: items => item.leaves ++ leavesOfItems items

def leavesOfFields : List (String × Value) → List Scalar
  | [] => []
  | (_, value) :: fields => value.leaves ++ leavesOfFields fields

end

mutual

def placedLeaves : Value → List (List Nat × Scalar)
  | .scalar leaf => [([], leaf)]
  | .sequence items => placedInItems 0 items
  | .record fields => placedInFields 0 fields

/-- The leaves of elements that are numbered from `i` on. -/
def placedInItems (i : Nat) : List Value → List (List Nat × Scalar)
  | [] => []
  | item :: items => item.placedLeaves.map (under i) ++ placedInItems (i + 1) items

/-- The leaves of fields that are numbered from `i` on. -/
def placedInFields (i : Nat) : List (String × Value) → List (List Nat × Scalar)
  | [] => []
  | (_, value) :: fields => value.placedLeaves.map (under i) ++ placedInFields (i + 1) fields

end

mutual

theorem map_snd_placedLeaves : (v : Value) → v.placedLeaves.map Prod.snd = v.leaves
  | .scalar leaf => by rw [placedLeaves, leaves]; rfl
  | .sequence items => by rw [placedLeaves, leaves, map_snd_placedInItems]
  | .record fields => by rw [placedLeaves, leaves, map_snd_placedInFields]

theorem map_snd_placedInItems (i : Nat) : (items : List Value) →
    (placedInItems i items).map Prod.snd = leavesOfItems items
  | [] => rfl
  | item :: items => by
      rw [placedInItems, leavesOfItems, List.map_append, List.map_map, map_snd_placedInItems (i + 1) items,
        ← map_snd_placedLeaves item]
      rfl

theorem map_snd_placedInFields (i : Nat) : (fields : List (String × Value)) →
    (placedInFields i fields).map Prod.snd = leavesOfFields fields
  | [] => rfl
  | (_, value) :: fields => by
      rw [placedInFields, leavesOfFields, List.map_append, List.map_map, map_snd_placedInFields (i + 1) fields,
        ← map_snd_placedLeaves value]
      rfl

end

/-- The labels of fields have no say in where leaves stand. -/
theorem placedInFields_eq (i : Nat) (fields : List (String × Value)) :
    placedInFields i fields = placedInItems i (fields.map Prod.snd) := by
  induction fields generalizing i with
  | nil => rfl
  | cons field fields ih => rw [placedInFields, List.map_cons, placedInItems, ih]

theorem mem_placedInItems {k : Nat} {items : List Value} {place : List Nat} {leaf : Scalar} :
    (place, leaf) ∈ placedInItems k items ↔
      ∃ i rest item, place = (k + i) :: rest ∧ items[i]? = some item ∧ (rest, leaf) ∈ item.placedLeaves := by
  induction items generalizing k with
  | nil => simp [placedInItems]
  | cons item items ih =>
      rw [placedInItems, List.mem_append, ih, List.mem_map]
      constructor
      · rintro (⟨⟨rest, leaf⟩, hleaf, heq⟩ | ⟨i, rest, other, rfl, hother, hleaf⟩)
        · obtain ⟨rfl, rfl⟩ := Prod.mk.inj heq
          exact ⟨0, rest, item, rfl, rfl, hleaf⟩
        · exact ⟨i + 1, rest, other, by rw [Nat.add_right_comm, Nat.add_assoc], hother, hleaf⟩
      · rintro ⟨i, rest, other, rfl, hother, hleaf⟩
        cases i with
        | zero =>
            obtain rfl : item = other := by simpa using hother
            exact .inl ⟨(rest, leaf), hleaf, rfl⟩
        | succ i => exact .inr ⟨i, rest, other, by rw [Nat.add_right_comm, Nat.add_assoc], hother, hleaf⟩

theorem mem_placedLeaves_iff {v : Value} {place : List Nat} {leaf : Scalar} :
    (place, leaf) ∈ v.placedLeaves ↔ v.at? place = some (.scalar leaf) := by
  induction place generalizing v with
  | nil =>
      cases v with
      | scalar other => simp [placedLeaves, at?, eq_comm]
      | sequence items => simp [placedLeaves, at?, mem_placedInItems]
      | record fields => simp [placedLeaves, at?, placedInFields_eq, mem_placedInItems]
  | cons i place ih =>
      -- below its parts a record is like a sequence
      have hparts : ∀ items : List Value, (i :: place, leaf) ∈ placedInItems 0 items ↔
          (items[i]?.bind fun item => item.at? place) = some (.scalar leaf) := by
        intro items
        rw [mem_placedInItems, Option.bind_eq_some_iff]
        constructor
        · rintro ⟨j, rest, item, heq, hitem, hleaf⟩
          obtain ⟨rfl, rfl⟩ : i = j ∧ place = rest := by simpa using heq
          exact ⟨item, hitem, ih.1 hleaf⟩
        · rintro ⟨item, hitem, hleaf⟩
          exact ⟨i, place, item, by simp, hitem, ih.2 hleaf⟩
      cases v with
      | scalar other => simp [placedLeaves, at?, parts]
      | sequence items => exact hparts items
      | record fields =>
          rw [placedLeaves, placedInFields_eq]
          exact hparts (fields.map Prod.snd)

/-! ## What is cut off -/

/-- The sequences of a value that are paired with names, each with its place: the value itself when it is to be
    a record, and otherwise its elements. -/
inductive IsZipped (names : List String) : Bool → Value → List Nat → List Value → Prop
  | whole {items : List Value} : names ≠ [] → IsZipped names true (.sequence items) [] items
  | element {items row : List Value} {i : Nat} :
      names ≠ [] → items[i]? = some (.sequence row) → IsZipped names false (.sequence items) [i] row

/-- Whether a place lies in an element behind the last name. -/
def IsCut (names : List String) (asRecord : Bool) (v : Value) (place : List Nat) : Prop :=
  ∃ front row i rest, IsZipped names asRecord v front row ∧ names.length ≤ i ∧ place = front ++ i :: rest

variable {names : List String}

theorem isCut_true_iff {v : Value} {place : List Nat} :
    IsCut names true v place ↔
      names ≠ [] ∧ ∃ items i rest, v = .sequence items ∧ place = i :: rest ∧ names.length ≤ i := by
  constructor
  · rintro ⟨front, row, i, rest, hzipped, hi, rfl⟩
    cases hzipped with
    | whole hnames => exact ⟨hnames, row, i, rest, rfl, rfl, hi⟩
  · rintro ⟨hnames, items, i, rest, rfl, rfl, hi⟩
    exact ⟨[], items, i, rest, .whole hnames, hi, rfl⟩

/-- In a sequence that stays one, each element is cut by itself. -/
theorem isCut_false_iff {v : Value} {place : List Nat} :
    IsCut names false v place ↔
      ∃ items i rest item, v = .sequence items ∧ place = i :: rest ∧ items[i]? = some item ∧
        IsCut names true item rest := by
  constructor
  · rintro ⟨front, row, i, rest, hzipped, hi, rfl⟩
    cases hzipped with
    | element hnames hrow =>
        have hcut := isCut_true_iff.2 ⟨hnames, row, i, rest, rfl, rfl, hi⟩
        exact ⟨_, _, i :: rest, _, rfl, rfl, hrow, hcut⟩
  · rintro ⟨items, i, rest, item, rfl, rfl, hitem, hcut⟩
    obtain ⟨hnames, row, j, rest, rfl, rfl, hj⟩ := isCut_true_iff.1 hcut
    exact ⟨[i], row, j, rest, .element hnames hitem, hj, rfl⟩

instance (v : Value) (place : List Nat) : Decidable (IsCut names true v place) :=
  match v, place with
  | .sequence items, i :: rest =>
      decidable_of_iff (names ≠ [] ∧ names.length ≤ i) (by rw [isCut_true_iff]; simp)
  | .sequence _, [] | .scalar _, _ | .record _, _ => .isFalse (by rw [isCut_true_iff]; simp)

instance (asRecord : Bool) (v : Value) (place : List Nat) : Decidable (IsCut names asRecord v place) :=
  match asRecord, v, place with
  | true, _, _ => inferInstance
  | false, .sequence items, i :: rest =>
      decidable_of_iff (∃ item ∈ items[i]?, IsCut names true item rest)
        (by rw [isCut_false_iff]; simp)
  | false, .sequence _, [] | false, .scalar _, _ | false, .record _, _ =>
      .isFalse (by rw [isCut_false_iff]; simp)

/-- Nothing is cut off a leaf or a record, and nothing at all without names. -/
theorem not_isCut {asRecord : Bool} {v : Value} {place : List Nat}
    (h : names = [] ∨ ∀ items, v ≠ .sequence items) : ¬ IsCut names asRecord v place := by
  rintro ⟨front, row, i, rest, hzipped, -, -⟩
  cases hzipped with
  | whole hnames => exact h.elim hnames fun hne => hne _ rfl
  | element hnames hrow => exact h.elim hnames fun hne => hne _ rfl

theorem filter_placedLeaves_eq_self {asRecord : Bool} {v : Value}
    (h : names = [] ∨ ∀ items, v ≠ .sequence items) :
    (v.placedLeaves.filter fun entry => ¬ IsCut names asRecord v entry.1) = v.placedLeaves :=
  List.filter_eq_self.2 fun _ _ => decide_eq_true (not_isCut h)

/-! ## Rows -/

theorem map_fst_zip_row (names : List String) (items : List Value) :
    ((names.map Text.lowerCamel).zip items).map Prod.fst =
      (names.take (min items.length names.length)).map Text.lowerCamel := by
  rw [List.zip_eq_zip_take_min, List.map_fst_zip (by simp), List.map_take, List.length_map, Nat.min_comm]

/-- Its values are the elements that there are names for. -/
theorem map_snd_zip_row (names : List String) (items : List Value) :
    ((names.map Text.lowerCamel).zip items).map Prod.snd = items.take names.length := by
  rw [List.zip_eq_zip_take_min, List.map_snd_zip (by simp), List.length_map, List.take_eq_take_iff]
  simp

/-! ## Leaves -/

theorem placedInItems_append (k : Nat) (front items : List Value) :
    placedInItems k (front ++ items) = placedInItems k front ++ placedInItems (k + front.length) items := by
  induction front generalizing k with
  | nil => rfl
  | cons item front ih =>
      rw [List.cons_append, placedInItems, placedInItems, ih, List.length_cons, List.append_assoc,
        Nat.add_right_comm, Nat.add_assoc]

/-- The leaves that stay when a sequence is paired with names are those of as many elements as there are
    names. -/
theorem filter_placedInItems_true (hnames : names ≠ []) (items : List Value) :
    ((placedInItems 0 items).filter fun entry => ¬ IsCut names true (.sequence items) entry.1) =
      placedInItems 0 (items.take names.length) := by
  have hsplit : placedInItems 0 items = placedInItems 0 (items.take names.length) ++
      placedInItems (0 + (items.take names.length).length) (items.drop names.length) := by
    rw [← placedInItems_append, List.take_append_drop]
  -- an element with a name stays
  have hkept : ∀ entry ∈ placedInItems 0 (items.take names.length),
      decide (¬ IsCut names true (.sequence items) entry.1) = true := by
    rintro ⟨place, leaf⟩ hentry
    obtain ⟨i, rest, item, rfl, hitem, -⟩ := mem_placedInItems.1 hentry
    rw [decide_eq_true_eq, isCut_true_iff]
    rintro ⟨-, _, j, _, -, hplace, hj⟩
    obtain rfl : 0 + i = j := (List.cons.inj hplace).1
    rw [List.getElem?_take, if_neg (by omega)] at hitem
    exact Option.some_ne_none _ hitem.symm
  -- an element behind the last name is cut off
  have hlost : ∀ entry ∈ placedInItems (0 + (items.take names.length).length) (items.drop names.length),
      ¬ decide (¬ IsCut names true (.sequence items) entry.1) = true := by
    rintro ⟨place, leaf⟩ hentry
    obtain ⟨i, rest, item, rfl, hitem, -⟩ := mem_placedInItems.1 hentry
    rw [decide_eq_true_eq, not_not, isCut_true_iff]
    refine ⟨hnames, items, _, rest, rfl, rfl, ?_⟩
    have hlength := (List.getElem?_eq_some_iff.1 hitem).1
    rw [List.length_drop] at hlength
    rw [List.length_take]
    omega
  rw [hsplit, List.filter_append, List.filter_eq_self.2 hkept, List.filter_eq_nil_iff.2 hlost, List.append_nil]

/-- Elements that lose leaves one by one lose them as a row. -/
theorem placedInItems_map {f : Value → Value} {keepIn : Value → List Nat × Scalar → Bool}
    {keep : List Nat × Scalar → Bool} {k : Nat} {items : List Value}
    (hf : ∀ item ∈ items, (f item).placedLeaves = item.placedLeaves.filter (keepIn item))
    (hkeep : ∀ i item, items[i]? = some item → ∀ entry, keep (under (k + i) entry) = keepIn item entry) :
    placedInItems k (items.map f) = (placedInItems k items).filter keep := by
  induction items generalizing k with
  | nil => rfl
  | cons item items ih =>
      rw [List.forall_mem_cons] at hf
      have hhead : (item.placedLeaves.map (under k)).filter keep =
          (item.placedLeaves.filter (keepIn item)).map (under k) := by
        rw [List.filter_map]
        congr 1
        exact List.filter_congr fun entry _ => hkeep 0 item rfl entry
      have htail : ∀ i other, items[i]? = some other → ∀ entry,
          keep (under (k + 1 + i) entry) = keepIn other entry := by
        intro i other hother entry
        have := hkeep (i + 1) other hother entry
        rwa [show k + (i + 1) = k + 1 + i by omega] at this
      rw [List.map_cons, placedInItems, placedInItems, List.filter_append, hhead, hf.1, ih hf.2 htail]

/-- What is left of a value that is to be a record if it can. -/
theorem placedLeaves_shaped_true (v : Value) :
    (v.shaped names true).placedLeaves = v.placedLeaves.filter fun entry => ¬ IsCut names true v entry.1 := by
  by_cases hnames : names = []
  · rw [filter_placedLeaves_eq_self (.inl hnames), hnames, shaped_nil]
  cases v with
  | scalar leaf => rw [filter_placedLeaves_eq_self (.inr (by simp)), shaped]
  | record fields => rw [filter_placedLeaves_eq_self (.inr (by simp)), shaped_record]
  | sequence items =>
      rw [shaped_sequence_true hnames, placedLeaves, placedLeaves, placedInFields_eq, map_snd_zip_row,
        filter_placedInItems_true hnames]

theorem placedLeaves_shaped (asRecord : Bool) (v : Value) :
    (v.shaped names asRecord).placedLeaves =
      v.placedLeaves.filter fun entry => ¬ IsCut names asRecord v entry.1 := by
  by_cases hnames : names = []
  · rw [filter_placedLeaves_eq_self (.inl hnames), hnames, shaped_nil]
  cases asRecord with
  | true => exact placedLeaves_shaped_true v
  | false =>
      cases v with
      | scalar leaf => rw [filter_placedLeaves_eq_self (.inr (by simp)), shaped]
      | record fields => rw [filter_placedLeaves_eq_self (.inr (by simp)), shaped_record]
      | sequence items =>
          rw [shaped_sequence_false hnames, placedLeaves, placedLeaves]
          refine placedInItems_map (fun item _ => placedLeaves_shaped_true item) ?_
          intro i item hitem entry
          rw [decide_eq_decide, isCut_false_iff, not_iff_not]
          simp [under, hitem]

/-! ## Rows, records and sequences at their places -/

theorem IsZipped.at?_eq {asRecord : Bool} {v : Value} {place : List Nat} {row : List Value}
    (h : IsZipped names asRecord v place row) : v.at? place = some (.sequence row) := by
  cases h with
  | whole hnames => rfl
  | element hnames hrow => simp [at?, parts, hrow]

theorem IsZipped.at?_shaped {asRecord : Bool} {v : Value} {place : List Nat} {row : List Value}
    (h : IsZipped names asRecord v place row) :
    (v.shaped names asRecord).at? place = some (.record ((names.map Text.lowerCamel).zip row)) := by
  cases h with
  | whole hnames => rw [shaped_sequence_true hnames]; rfl
  | element hnames hrow =>
      rw [shaped_sequence_false hnames]
      simp [at?, parts, hrow, shaped_sequence_true hnames]

/-- Below a value that is to be a record if it can, nothing changes but for what is cut off. -/
theorem at?_shaped_true {v : Value} {i : Nat} {place : List Nat} (h : ¬ IsCut names true v (i :: place)) :
    (v.shaped names true).at? (i :: place) = v.at? (i :: place) := by
  by_cases hnames : names = []
  · rw [hnames, shaped_nil]
  cases v with
  | scalar leaf => rw [shaped]
  | record fields => rw [shaped_record]
  | sequence items =>
      have hi : i < names.length := by
        by_contra hle
        exact h (isCut_true_iff.2 ⟨hnames, items, i, place, rfl, rfl, Nat.le_of_not_lt hle⟩)
      have hpart : (items.take names.length)[i]? = items[i]? := by rw [List.getElem?_take, if_pos hi]
      rw [shaped_sequence_true hnames]
      simp only [at?, parts, map_snd_zip_row, hpart]

/-- What is neither cut off nor zipped stays as it is, but for a sequence that stays one and has its elements
    shaped. -/
theorem at?_shaped_of_not_isZipped {asRecord : Bool} {v part : Value} {place : List Nat}
    (hcut : ¬ IsCut names asRecord v place) (hzipped : ∀ row, ¬ IsZipped names asRecord v place row)
    (hpart : v.at? place = some part) :
    (v.shaped names asRecord).at? place = some part ∨
      (v.shaped names asRecord).at? place = some (part.shaped names false) := by
  by_cases hnames : names = []
  · left
    rw [hnames, shaped_nil, hpart]
  cases v with
  | scalar leaf => exact .inl (by rw [shaped, hpart])
  | record fields => exact .inl (by rw [shaped_record, hpart])
  | sequence items =>
      cases asRecord with
      | true =>
          cases place with
          | nil => exact absurd (.whole hnames) (hzipped items)
          | cons i place => exact .inl (by rw [at?_shaped_true hcut, hpart])
      | false =>
          cases place with
          | nil =>
              right
              rw [at?, Option.some.injEq] at hpart
              rw [hpart, at?]
          | cons i place =>
              left
              obtain ⟨item, hitem, hpart⟩ := Option.bind_eq_some_iff.1 hpart
              have hplace : ((sequence items).shaped names false).at? (i :: place) =
                  (item.shaped names true).at? place := by
                rw [shaped_sequence_false hnames]
                simp [at?, parts, show items[i]? = some item from hitem]
              rw [hplace]
              cases place with
              | nil =>
                  -- an element that is no sequence, for it would be zipped
                  cases item with
                  | scalar leaf => rw [shaped, hpart]
                  | record fields => rw [shaped_record, hpart]
                  | sequence row => exact absurd (.element hnames hitem) (hzipped row)
              | cons j place =>
                  have hkept : ¬ IsCut names true item (j :: place) := fun h =>
                    hcut (isCut_false_iff.2 ⟨items, i, j :: place, item, rfl, rfl, hitem, h⟩)
                  rw [at?_shaped_true hkept, hpart]

/-! ## All in all -/

/-- Shaping loses what is cut off and nothing else. With its place each leaf is listed once, in order; the
    leaves of a shaped value are those of the value, less the ones in elements behind the last name; a zipped
    sequence is a record of the first names in camel case, as many as there are elements for, and these are its
    fields; and outside of what is cut off each record is as it was, and each other sequence has as many
    elements. -/
theorem leaves_shaped (v : Value) (names : List String) (asRecord : Bool) :
    (v.placedLeaves.map Prod.snd = v.leaves ∧
      ∀ place leaf, (place, leaf) ∈ v.placedLeaves ↔ v.at? place = some (.scalar leaf)) ∧
    (v.shaped names asRecord).leaves =
      (v.placedLeaves.filter fun entry => ¬ IsCut names asRecord v entry.1).map Prod.snd ∧
    (∀ place row, IsZipped names asRecord v place row →
      ∃ fields, (v.shaped names asRecord).at? place = some (.record fields) ∧
        fields.map Prod.fst = (names.take (min row.length names.length)).map Text.lowerCamel ∧
        fields.map Prod.snd = row.take names.length) ∧
    (∀ place fields, ¬ IsCut names asRecord v place → v.at? place = some (.record fields) →
      (v.shaped names asRecord).at? place = some (.record fields)) ∧
    ∀ place items, ¬ IsCut names asRecord v place → v.at? place = some (.sequence items) →
      (∀ row, ¬ IsZipped names asRecord v place row) →
      ∃ others, (v.shaped names asRecord).at? place = some (.sequence others) ∧
        others.length = items.length := by
  refine ⟨⟨map_snd_placedLeaves v, fun _ _ => mem_placedLeaves_iff⟩, ?_, ?_, ?_, ?_⟩
  · rw [← map_snd_placedLeaves, placedLeaves_shaped]
  · intro place row hzipped
    exact ⟨_, hzipped.at?_shaped, map_fst_zip_row names row, map_snd_zip_row names row⟩
  · intro place fields hcut hfields
    -- only a sequence is zipped
    have hzipped : ∀ row, ¬ IsZipped names asRecord v place row := by
      intro row hrow
      rw [hrow.at?_eq] at hfields
      simp at hfields
    rcases at?_shaped_of_not_isZipped hcut hzipped hfields with h | h
    · exact h
    · rwa [shaped_record] at h
  · intro place items hcut hitems hzipped
    rcases at?_shaped_of_not_isZipped hcut hzipped hitems with h | h
    · exact ⟨items, h, rfl⟩
    · by_cases hnames : names = []
      · exact ⟨items, by rw [hnames, shaped_nil, hitems], rfl⟩
      · rw [shaped_sequence_false hnames] at h
        exact ⟨_, h, List.length_map _⟩

/-- A row of three elements, a record with one inside, and a row of one. -/
def unevenRows : Value :=
  .sequence [
    .sequence [.scalar (.int 1), .scalar (.int 2), .scalar (.int 3)],
    .record [("a_b", .sequence [.scalar (.int 4), .scalar (.int 5), .scalar (.int 6)])],
    .sequence [.scalar (.int 7)]]

/-- With two names only the third element of the first row is lost. -/
theorem leaves_shaped_uneven :
    (unevenRows.shaped ["a", "b"] false).leaves =
        [.int 1, .int 2, .int 4, .int 5, .int 6, .int 7] ∧
      (∃ fields, (unevenRows.shaped ["a", "b"] false).at? [0] = some (.record fields) ∧
        fields.map Prod.fst = ["a", "b"] ∧ fields.map Prod.snd = [.scalar (.int 1), .scalar (.int 2)]) ∧
      (unevenRows.shaped ["a", "b"] false).at? [1] =
        some (.record [("a_b", .sequence [.scalar (.int 4), .scalar (.int 5), .scalar (.int 6)])]) ∧
      ∃ others, (unevenRows.shaped ["a", "b"] false).at? [1, 0] = some (.sequence others) ∧
        others.length = 3 := by
  have hnames : ["a", "b"] ≠ [] := by decide
  obtain ⟨-, hleaves, hrows, hrecords, hsequences⟩ := leaves_shaped unevenRows ["a", "b"] false
  refine ⟨hleaves.trans (by decide +kernel), ?_, hrecords [1] _ (by decide) rfl,
    hsequences [1, 0] _ (by decide) rfl (fun row h => by cases h)⟩
  obtain ⟨fields, hfields, hlabels, hvalues⟩ := hrows [0] _ (.element hnames rfl)
  exact ⟨fields, hfields, hlabels.trans (by decide +kernel), hvalues⟩

end CodeBlock.Value
