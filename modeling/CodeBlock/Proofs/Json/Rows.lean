import CodeBlock.Json.Demand
import CodeBlock.Proofs.Json.Skipping
import CodeBlock.Proofs.Json.Structures

set_option autoImplicit false

/-! # Rows of JSON and what they mean

The elements of an array and the members of an object are read by one scheme: what leads to the next element
is passed over, the element is read with some fuel, and so on up to the closing bracket. If what is read as an
element means what it is read as, so does what is read as a row; and if an element is read the same wherever
it stands, so is a row of such elements. -/

namespace CodeBlock.Json

variable {α : Type}

/-! ## What is read the same everywhere -/

/-- JSON that is read as `x` with the fuel that its length needs, whatever blanks stand before it and
    whatever follows. -/
structure ReadsFrom (need : Nat → Nat) (read : Nat → List Char → Except Failure (α × List Char))
    (item : List Char) (x : α) : Prop where
  isJson : Derives .value item
  reads : ∀ ⦃fuel gap rest⦄, need item.length ≤ fuel → IsBlanks gap → EndsValue rest →
    read fuel (gap ++ (item ++ rest)) = .ok (x, rest)

/-- JSON that is read as `x`, whatever blanks stand before it and whatever follows. -/
abbrev ReadsAs (read : List Char → Except Failure (α × List Char)) (item : List Char) (x : α) : Prop :=
  ReadsFrom id (fun _ => read) item x

/-- Whether all that is read is read the same everywhere. -/
def IsLocal (read : List Char → Except Failure (α × List Char)) : Prop :=
  ∀ ⦃s x rest⦄, read s = .ok (x, rest) →
    ∃ gap item, IsBlanks gap ∧ ReadsAs read item x ∧ s = gap ++ (item ++ rest)

/-- Whether all that is read means what it is read as, in a sense in which texts mean something. -/
def IsFaithful (Means : List Char → α → Prop) (read : List Char → Except Failure (α × List Char)) : Prop :=
  ∀ ⦃s x rest⦄, read s = .ok (x, rest) →
    ∃ gap item, IsBlanks gap ∧ Means item x ∧ s = gap ++ (item ++ rest)

theorem ReadsAs.read_append {read : List Char → Except Failure (α × List Char)} {item : List Char} {x : α}
    (h : ReadsAs read item x) {gap rest : List Char} (hgap : IsBlanks gap) (hrest : EndsValue rest) :
    read (gap ++ (item ++ rest)) = .ok (x, rest) :=
  h.reads (Nat.le_refl _) hgap hrest

/-! ## Rows and members -/

/-- A row of elements, each with its meaning. -/
inductive Row (Means : List Char → α → Prop) : Bool → List Char → List α → Prop
  | nil {first : Bool} {gap : List Char} : IsBlanks gap → Row Means first gap []
  | cons {first : Bool} {lead item row : List Char} {x : α} {xs : List α} :
      IsLead first lead → Means item x → Row Means false row xs →
      Row Means first (lead ++ (item ++ row)) (x :: xs)

/-- A row of members, each with the text that its key spells and with the meaning of its value. -/
inductive Members (Means : List Char → α → Prop) : Bool → List Char → List (String × α) → Prop
  | nil {first : Bool} {gap : List Char} : IsBlanks gap → Members Means first gap []
  | cons {first : Bool} {lead body gap gap' item row : List Char} {key : String} {x : α}
      {members : List (String × α)} :
      IsLead first lead → Spells body key.toList → IsBlanks gap → IsBlanks gap' → Means item x →
      Members Means false row members →
      Members Means first
        (lead ++ '"' :: (body ++ '"' :: (gap ++ ':' :: (gap' ++ (item ++ row))))) ((key, x) :: members)

variable {Means : List Char → α → Prop}

theorem Row.derives (hmeans : ∀ {item x}, Means item x → Derives .value item) {first : Bool}
    {row : List Char} {xs : List α} (h : Row Means first row xs) : Derives (.items first) row := by
  induction h with
  | nil hgap => exact .noItem hgap
  | cons hlead hitem _ ih => exact .item hlead (hmeans hitem) ih

theorem Members.derives (hmeans : ∀ {item x}, Means item x → Derives .value item) {first : Bool}
    {row : List Char} {members : List (String × α)} (h : Members Means first row members) :
    Derives (.members first) row := by
  induction h with
  | nil hgap => exact .noMember hgap
  | cons hlead hkey hgap hgap' hitem _ ih =>
      exact .member hlead hkey.isStringBody hgap hgap' (hmeans hitem) ih

/-- What holds of all that texts mean holds of each element of a row. -/
theorem Row.forall_mem {P : α → Prop} {first : Bool} {row : List Char} {xs : List α}
    (h : Row (fun _ => P) first row xs) : ∀ x ∈ xs, P x := by
  induction h with
  | nil _ => simp
  | cons _ hx _ ih => exact List.forall_mem_cons.2 ⟨hx, ih⟩

theorem Members.forall_mem {P : α → Prop} {first : Bool} {row : List Char} {members : List (String × α)}
    (h : Members (fun _ => P) first row members) : ∀ member ∈ members, P member.2 := by
  induction h with
  | nil _ => simp
  | cons _ _ _ _ hx _ ih => exact List.forall_mem_cons.2 ⟨hx, ih⟩

theorem Row.imp {Means' : List Char → α → Prop} (himp : ∀ {item x}, Means item x → Means' item x)
    {first : Bool} {row : List Char} {xs : List α} (h : Row Means first row xs) : Row Means' first row xs := by
  induction h with
  | nil hgap => exact .nil hgap
  | cons hlead hitem _ ih => exact .cons hlead (himp hitem) ih

theorem Members.imp {Means' : List Char → α → Prop} (himp : ∀ {item x}, Means item x → Means' item x)
    {first : Bool} {row : List Char} {members : List (String × α)} (h : Members Means first row members) :
    Members Means' first row members := by
  induction h with
  | nil hgap => exact .nil hgap
  | cons hlead hkey hgap hgap' hitem _ ih => exact .cons hlead hkey hgap hgap' (himp hitem) ih

/-! ## What leads to an element -/

/-- Blanks behind what leads to an element belong to it. -/
theorem IsLead.append {first : Bool} {lead gap : List Char} (h : IsLead first lead) (hgap : IsBlanks gap) :
    IsLead first (lead ++ gap) := by
  cases h with
  | first hlead => exact .first (hlead.append hgap)
  | comma hbefore hafter =>
      rw [List.append_assoc]
      exact .comma hbefore (hafter.append hgap)

theorem close_append {gap : List Char} (hgap : IsBlanks gap) {c : Char} (hc : isBlank c = false)
    (rest : List Char) : close (gap ++ c :: rest) = rest := by
  rw [close, skipBlanks_append hgap, skipBlanks_of_not_isBlank hc, List.drop_one, List.tail_cons]

theorem nextItem_close {first : Bool} {gap : List Char} (hgap : IsBlanks gap) (rest : List Char) :
    nextItem first (gap ++ ']' :: rest) = .ok none := by
  rw [nextItem, bind_of_eq_ok (demand_append hgap (by decide) _ _)]
  rfl

theorem nextItem_lead {first : Bool} {lead : List Char} (hlead : IsLead first lead) {c : Char}
    (hc : isBlank c = false) (hclose : c ≠ ']') (after : List Char) :
    nextItem first (lead ++ c :: after) = .ok (some (c :: after)) := by
  cases hlead with
  | first hgap =>
      rw [nextItem, bind_of_eq_ok (demand_append hgap hc _ _)]
      simp only [if_neg hclose, if_true]
  | comma hbefore hafter =>
      rw [List.append_assoc, List.cons_append, nextItem,
        bind_of_eq_ok (demand_append hbefore (by decide) _ _)]
      simp only [if_neg (show ¬ ',' = ']' by decide), if_true, Bool.false_eq_true, if_false,
        bind_of_eq_ok (demand_append hafter hc _ _), if_neg hclose]

/-- An array ends at the bracket behind its blanks. -/
theorem exists_of_nextItem_none {first : Bool} {s : List Char} (h : nextItem first s = .ok none) :
    ∃ gap, IsBlanks gap ∧ s = gap ++ ']' :: close s := by
  obtain ⟨⟨c, after⟩, hdemand, hnext⟩ := exists_of_bind_eq_ok h
  obtain ⟨hc, gap, hgap, hs⟩ := demand_eq_ok_iff.1 hdemand
  dsimp only at hnext
  split_ifs at hnext with hclose hfirst hcomma
  · refine ⟨gap, hgap, ?_⟩
    rw [hs, close_append hgap hc, hclose]
  · cases hnext
  · obtain ⟨⟨d, behind⟩, -, hmore⟩ := exists_of_bind_eq_ok hnext
    split_ifs at hmore <;> cases hmore
  · cases hnext

/-- An array goes on behind what leads to its next element. -/
theorem exists_of_nextItem_some {first : Bool} {s after : List Char}
    (h : nextItem first s = .ok (some after)) : ∃ lead, IsLead first lead ∧ s = lead ++ after := by
  obtain ⟨⟨c, rest⟩, hdemand, hnext⟩ := exists_of_bind_eq_ok h
  obtain ⟨-, gap, hgap, hs⟩ := demand_eq_ok_iff.1 hdemand
  dsimp only at hnext
  split_ifs at hnext with hclose hfirst hcomma
  · cases hnext
  · cases hnext
    subst hfirst
    exact ⟨gap, .first hgap, hs⟩
  · obtain ⟨⟨d, behind⟩, hdemand', hmore⟩ := exists_of_bind_eq_ok hnext
    obtain ⟨-, gap', hgap', rfl⟩ := demand_eq_ok_iff.1 hdemand'
    rw [Bool.not_eq_true] at hfirst
    subst hfirst
    split_ifs at hmore
    · cases hmore
    · cases hmore
      exact ⟨gap ++ ',' :: gap', .comma hgap hgap', by rw [hs, hcomma, List.append_assoc, List.cons_append]⟩
  · cases hnext

theorem nextKey_close {first : Bool} {gap : List Char} (hgap : IsBlanks gap) (rest : List Char) :
    nextKey first (gap ++ '}' :: rest) = .ok none := by
  rw [nextKey, bind_of_eq_ok (demand_append hgap (by decide) _ _)]
  rfl

theorem nextKey_lead {first : Bool} {lead : List Char} (hlead : IsLead first lead) (after : List Char) :
    nextKey first (lead ++ '"' :: after) = .ok (some after) := by
  cases hlead with
  | first hgap =>
      rw [nextKey, bind_of_eq_ok (demand_append hgap (by decide) _ _)]
      rfl
  | comma hbefore hafter =>
      rw [List.append_assoc, List.cons_append, nextKey,
        bind_of_eq_ok (demand_append hbefore (by decide) _ _)]
      simp only [if_neg (show ¬ ',' = '}' by decide), if_true, Bool.false_eq_true, if_false,
        bind_of_eq_ok (demand_append hafter (show isBlank '"' = false by decide) _ _)]

/-- An object ends at the brace behind its blanks. -/
theorem exists_of_nextKey_none {first : Bool} {s : List Char} (h : nextKey first s = .ok none) :
    ∃ gap, IsBlanks gap ∧ s = gap ++ '}' :: close s := by
  obtain ⟨⟨c, after⟩, hdemand, hnext⟩ := exists_of_bind_eq_ok h
  obtain ⟨hc, gap, hgap, hs⟩ := demand_eq_ok_iff.1 hdemand
  dsimp only at hnext
  split_ifs at hnext with hclose hfirst hquote hcomma
  · refine ⟨gap, hgap, ?_⟩
    rw [hs, close_append hgap hc, hclose]
  · cases hnext
  · cases hnext
  · obtain ⟨⟨d, behind⟩, -, hmore⟩ := exists_of_bind_eq_ok hnext
    split_ifs at hmore <;> cases hmore
  · cases hnext

/-- An object goes on behind what leads to its next member. -/
theorem exists_of_nextKey_some {first : Bool} {s after : List Char}
    (h : nextKey first s = .ok (some after)) : ∃ lead, IsLead first lead ∧ s = lead ++ '"' :: after := by
  obtain ⟨⟨c, rest⟩, hdemand, hnext⟩ := exists_of_bind_eq_ok h
  obtain ⟨-, gap, hgap, hs⟩ := demand_eq_ok_iff.1 hdemand
  dsimp only at hnext
  split_ifs at hnext with hclose hfirst hquote hcomma
  · cases hnext
  · cases hnext
    subst hfirst
    exact ⟨gap, .first hgap, by rw [hs, hquote]⟩
  · cases hnext
  · obtain ⟨⟨d, behind⟩, hdemand', hmore⟩ := exists_of_bind_eq_ok hnext
    obtain ⟨-, gap', hgap', rfl⟩ := demand_eq_ok_iff.1 hdemand'
    rw [Bool.not_eq_true] at hfirst
    subst hfirst
    -- behind a comma a bracket is refused
    split_ifs at hmore with hquote
    · cases hmore
      have hd : d = '"' := hquote
      exact ⟨gap ++ ',' :: gap', .comma hgap hgap',
        by rw [hs, hcomma, hd, List.append_assoc, List.cons_append]⟩
    · cases hmore
    · cases hmore
  · cases hnext

theorem endsValue_of_nextKey {s : List Char} {next : Option (List Char)}
    (h : nextKey false s = .ok next) : EndsValue s := by
  cases next with
  | none =>
      obtain ⟨gap, hgap, hs⟩ := exists_of_nextKey_none h
      rw [hs]
      exact hgap.endsValue_append (endsValue_cons (by decide) _)
  | some after =>
      obtain ⟨lead, hlead, rfl⟩ := exists_of_nextKey_some h
      exact hlead.endsValue_append _

/-! ## Reading rows -/

section

variable (read : Nat → List Char → Except Failure (α × List Char))

/-- Reads the elements of an array up to its closing bracket, each with the fuel that is left. -/
def readRow (first : Bool) : Nat → List Char → Except Failure (List α × List Char)
  | 0, s => failHere .tooDeep s
  | fuel + 1, s => do
      match ← nextItem first s with
      | none => return ([], close s)
      | some s =>
          let (item, rest) ← read fuel s
          let (items, rest) ← readRow false fuel rest
          return (item :: items, rest)

/-- Reads the members of an object up to its closing brace, each value with the fuel that is left. -/
def readMembers (first : Bool) : Nat → List Char → Except Failure (List (String × α) × List Char)
  | 0, s => failHere .tooDeep s
  | fuel + 1, s => do
      match ← nextKey first s with
      | none => return ([], close s)
      | some s =>
          let (key, rest) ← readString s
          let rest ← readColon rest
          let (value, rest) ← read fuel rest
          let (members, rest) ← readMembers false fuel rest
          return ((key, value) :: members, rest)

end

theorem readItemsFrom_eq (depth : Nat) (first : Bool) (fuel : Nat) (s : List Char) :
    readItemsFrom depth first fuel s = readRow (readValueFrom depth) first fuel s := by
  induction fuel generalizing first s with
  | zero => rfl
  | succ fuel ih =>
      simp only [readItemsFrom, ih]
      rfl

theorem demandItems_eq (read : List Char → Except Failure (α × List Char)) (first : Bool) (fuel : Nat)
    (s : List Char) : demandItems read first fuel s = readRow (fun _ => read) first fuel s := by
  induction fuel generalizing first s with
  | zero => rfl
  | succ fuel ih =>
      simp only [demandItems, ih]
      rfl

theorem readMembersFrom_eq (depth : Nat) (first : Bool) (fuel : Nat) (s : List Char) :
    readMembersFrom depth first fuel s = readMembers (readValueFrom depth) first fuel s := by
  induction fuel generalizing first s with
  | zero => rfl
  | succ fuel ih =>
      simp only [readMembersFrom, ih]
      rfl

theorem demandMembers_eq (read : List Char → Except Failure (α × List Char)) (first : Bool) (fuel : Nat)
    (s : List Char) : demandMembers read first fuel s = readMembers (fun _ => read) first fuel s := by
  induction fuel generalizing first s with
  | zero => rfl
  | succ fuel ih =>
      simp only [demandMembers, ih]
      rfl

variable {need : Nat → Nat} {read : Nat → List Char → Except Failure (α × List Char)} {first : Bool}

theorem exists_row {fuel : Nat} (hread : ∀ less < fuel, IsFaithful Means (read less)) {s rest : List Char}
    {xs : List α} (h : readRow read first fuel s = .ok (xs, rest)) :
    ∃ row, Row Means first row xs ∧ s = row ++ ']' :: rest := by
  -- by induction on the fuel: the element and the rest of the row are read with less of it
  induction fuel generalizing first s xs with
  | zero => cases h
  | succ fuel ih =>
      rw [readRow] at h
      obtain ⟨next, hnext, h⟩ := exists_of_bind_eq_ok h
      cases next with
      | none =>
          cases h
          obtain ⟨gap, hgap, hs⟩ := exists_of_nextItem_none hnext
          exact ⟨gap, .nil hgap, hs⟩
      | some after =>
          obtain ⟨⟨x, behind⟩, hitem, h⟩ := exists_of_bind_eq_ok h
          obtain ⟨⟨xs, last⟩, hothers, h⟩ := exists_of_bind_eq_ok h
          cases h
          obtain ⟨lead, hlead, rfl⟩ := exists_of_nextItem_some hnext
          obtain ⟨gap, item, hgap, hmeans, rfl⟩ := hread fuel (by omega) hitem
          obtain ⟨row, hrow, rfl⟩ := ih (fun less hless => hread less (by omega)) hothers
          exact ⟨_, .cons (hlead.append hgap) hmeans hrow, by simp⟩

theorem Row.readRow (hneed : StrictMono need) {row : List Char} {xs : List α}
    (h : Row (ReadsFrom need read) first row xs) {fuel : Nat} (hfuel : need row.length < fuel)
    (rest : List Char) :
    readRow read first fuel (row ++ ']' :: rest) = .ok (xs, rest) := by
  obtain ⟨fuel, rfl⟩ := Nat.exists_eq_succ_of_ne_zero (n := fuel) (by omega)
  induction h generalizing fuel with
  | nil hgap =>
      rw [Json.readRow, bind_of_eq_ok (nextItem_close hgap _)]
      simp only [close_append hgap (show isBlank ']' = false by decide)]
      rfl
  | @cons first lead item row x xs hlead hitem hrow ih =>
      obtain ⟨c, after, rfl, hc, hclose⟩ := hitem.isJson.head
      -- an element ends before the next one or before the end of the row
      have hends : EndsValue (row ++ ']' :: rest) := (hrow.derives ReadsFrom.isJson).endsValue_items
      -- the element is no longer than the row, and what is behind it is shorter
      have hitem' : need (c :: after).length ≤ need (lead ++ (c :: after ++ row)).length :=
        hneed.monotone (by simp; omega)
      have hrow' : need row.length < need (lead ++ (c :: after ++ row)).length := hneed (by simp; omega)
      obtain ⟨fuel, rfl⟩ := Nat.exists_eq_succ_of_ne_zero (n := fuel) (by omega)
      have hread : read (fuel + 1) (c :: (after ++ (row ++ ']' :: rest))) = .ok (x, row ++ ']' :: rest) :=
        hitem.reads (by omega) isBlanks_nil hends
      simp only [List.append_assoc, List.cons_append]
      rw [Json.readRow, bind_of_eq_ok (nextItem_lead hlead hc hclose _)]
      simp only [bind_of_eq_ok hread, bind_of_eq_ok (ih fuel (by omega))]
      rfl

theorem exists_members {fuel : Nat} (hread : ∀ less < fuel, IsFaithful Means (read less))
    {s rest : List Char} {members : List (String × α)}
    (h : readMembers read first fuel s = .ok (members, rest)) :
    ∃ row, Members Means first row members ∧ s = row ++ '}' :: rest := by
  induction fuel generalizing first s members with
  | zero => cases h
  | succ fuel ih =>
      rw [readMembers] at h
      obtain ⟨next, hnext, h⟩ := exists_of_bind_eq_ok h
      cases next with
      | none =>
          cases h
          obtain ⟨gap, hgap, hs⟩ := exists_of_nextKey_none hnext
          exact ⟨gap, .nil hgap, hs⟩
      | some after =>
          obtain ⟨⟨key, behind⟩, hkey, h⟩ := exists_of_bind_eq_ok h
          obtain ⟨value, hcolon, h⟩ := exists_of_bind_eq_ok h
          obtain ⟨⟨x, others⟩, hitem, h⟩ := exists_of_bind_eq_ok h
          obtain ⟨⟨members, last⟩, hothers, h⟩ := exists_of_bind_eq_ok h
          cases h
          obtain ⟨lead, hlead, rfl⟩ := exists_of_nextKey_some hnext
          obtain ⟨body, hbody, rfl⟩ := readString_eq_ok_iff.1 hkey
          obtain ⟨gap, hgap, rfl⟩ := readColon_eq_ok_iff.1 hcolon
          obtain ⟨gap', item, hgap', hmeans, rfl⟩ := hread fuel (by omega) hitem
          obtain ⟨row, hrow, rfl⟩ := ih (fun less hless => hread less (by omega)) hothers
          exact ⟨_, .cons hlead hbody hgap hgap' hmeans hrow, by simp⟩

theorem Members.readMembers (hneed : StrictMono need) {row : List Char} {members : List (String × α)}
    (h : Members (ReadsFrom need read) first row members) {fuel : Nat} (hfuel : need row.length < fuel)
    (rest : List Char) : readMembers read first fuel (row ++ '}' :: rest) = .ok (members, rest) := by
  obtain ⟨fuel, rfl⟩ := Nat.exists_eq_succ_of_ne_zero (n := fuel) (by omega)
  induction h generalizing fuel with
  | nil hgap =>
      rw [Json.readMembers, bind_of_eq_ok (nextKey_close hgap _)]
      simp only [close_append hgap (show isBlank '}' = false by decide)]
      rfl
  | @cons first lead body gap gap' item row key x members hlead hbody hgap hgap' hitem hrow ih =>
      have hends : EndsValue (row ++ '}' :: rest) := (hrow.derives ReadsFrom.isJson).endsValue_members
      have hitem' : need item.length ≤ need
          (lead ++ '"' :: (body ++ '"' :: (gap ++ ':' :: (gap' ++ (item ++ row))))).length :=
        hneed.monotone (by simp; omega)
      have hrow' : need row.length < need
          (lead ++ '"' :: (body ++ '"' :: (gap ++ ':' :: (gap' ++ (item ++ row))))).length :=
        hneed (by simp; omega)
      obtain ⟨fuel, rfl⟩ := Nat.exists_eq_succ_of_ne_zero (n := fuel) (by omega)
      have hread : read (fuel + 1) (gap' ++ (item ++ (row ++ '}' :: rest))) = .ok (x, row ++ '}' :: rest) :=
        hitem.reads (by omega) hgap' hends
      simp only [List.append_assoc, List.cons_append]
      rw [Json.readMembers, bind_of_eq_ok (nextKey_lead hlead _)]
      simp only [bind_of_eq_ok (hbody.readString _), bind_of_eq_ok (readColon_append hgap _),
        bind_of_eq_ok hread, bind_of_eq_ok (ih fuel (by omega))]
      rfl

end CodeBlock.Json
