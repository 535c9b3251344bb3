import CodeBlock.Json.Demand

set_option autoImplicit false

/-! # Readers of structures side by side

A reader of a structure does nothing with what it gathers but hand it to the readers of its fields. Of two
readers whose field readers go through the same text and keep what they gather related, the second one gets
through wherever the first one does, and what they have gathered in the end is related.

An object is read as the table of its members: what is lost are the members before the last one of each
key. A reader of all members gets through wherever the reader of the object does. -/

namespace CodeBlock.Json

/-- JSON of another shape is never read. -/
theorem mismatch_ne_ok {α : Type} (expected : String) (depth : Nat) (s : List Char) (a : α) :
    mismatch expected depth s ≠ .ok a := by
  intro h
  unfold mismatch at h
  split at h
  · cases h
  · split at h
    · cases h
    · split at h
      · cases h
      · split at h <;> cases h

/-- A step that succeeds is followed by what comes next. -/
theorem bind_of_eq_ok {α β : Type} {x : Except Failure α} {a : α} (h : x = .ok a)
    (f : α → Except Failure β) : x >>= f = f a := by
  rw [h]
  rfl

/-! ## Members -/

/-- Reads the members of an object as they come, keys that come again among them. -/
def demandEntries {α : Type} (read : Nat → List Char → Except Failure (α × List Char)) (depth : Nat)
    (s : List Char) : Except Failure (List (String × α) × List Char) :=
  match skipBlanks s with
  | '{' :: rest =>
      if depth ≤ 1 then failNext .tooDeep ('{' :: rest)
      else demandMembers (read (depth - 1)) true (rest.length + 1) rest
  | s => mismatch "a map" depth s

theorem exists_demandEntries {α : Type} {read : Nat → List Char → Except Failure (α × List Char)}
    {depth : Nat} {s rest : List Char} {table : List (String × α)}
    (h : demandObject read depth s = .ok (table, rest)) :
    ∃ members, demandEntries read depth s = .ok (members, rest) ∧ table = Table.ofEntries members := by
  unfold demandObject at h
  unfold demandEntries
  split at h
  · rename_i hs
    split at h
    · cases h
    · rename_i hdepth
      obtain ⟨⟨members, _⟩, hmembers, h⟩ := exists_of_bind_eq_ok h
      cases h
      exact ⟨members, by simpa [hs, hdepth] using hmembers, rfl⟩
  · exact absurd h (mismatch_ne_ok _ _ _ _)

/-! ## Fields -/

section

variable {F S T : Type}

/-- Whether a reader of fields gets through wherever another one does, as far as that one, and keeps what
    both have gathered related. -/
def Follows (R : S → T → Prop) (read : F → S → List Char → Except Failure (S × List Char))
    (follower : F → T → List Char → Except Failure (T × List Char)) : Prop :=
  ∀ ⦃field state other s state' rest⦄, R state other → read field state s = .ok (state', rest) →
    ∃ other', follower field other s = .ok (other', rest) ∧ R state' other'

variable {R : S → T → Prop} {state state' : S} {other : T} {s rest : List Char}

theorem exists_demandFieldItems {read : F → S → List Char → Except Failure (S × List Char)}
    {follower : F → T → List Char → Except Failure (T × List Char)} (hread : Follows R read follower)
    {fields : List F} {first : Bool} (hstate : R state other)
    (h : demandFieldItems read first state fields s = .ok (state', rest)) :
    ∃ other', demandFieldItems follower first other fields s = .ok (other', rest) ∧ R state' other' := by
  induction fields generalizing first state other s with
  | nil =>
      rw [demandFieldItems] at h ⊢
      split at h
      · cases h
      · cases h
        exact ⟨other, rfl, hstate⟩
      · split at h <;> cases h
      · cases h
  | cons field fields ih =>
      rw [demandFieldItems] at h ⊢
      obtain ⟨next, hnext, h⟩ := exists_of_bind_eq_ok h
      rw [bind_of_eq_ok hnext]
      cases next with
      | none =>
          cases h
          exact ⟨other, rfl, hstate⟩
      | some s =>
          obtain ⟨⟨state₁, rest₁⟩, hfield, h⟩ := exists_of_bind_eq_ok h
          obtain ⟨other₁, hfollower, hstate₁⟩ := hread hstate hfield
          obtain ⟨other', hothers, hstate'⟩ := ih hstate₁ h
          exact ⟨other', (bind_of_eq_ok hfollower _).trans hothers, hstate'⟩

variable [DecidableEq F]

/-- Fields are read side by side from an object. -/
theorem exists_demandFieldMembers {fields : List (String × F)}
    {read : F → S → List Char → Except Failure (S × List Char)}
    {follower : F → T → List Char → Except Failure (T × List Char)} (hread : Follows R read follower)
    {fuel : Nat} {seen : List F} {first : Bool} (hstate : R state other)
    (h : demandFieldMembers fields read seen state fuel first s = .ok (state', rest)) :
    ∃ other', demandFieldMembers fields follower seen other fuel first s = .ok (other', rest) ∧
      R state' other' := by
  -- by induction on the fuel: both read the same members, so both have seen the same fields
  induction fuel generalizing seen first state other s with
  | zero => cases h
  | succ fuel ih =>
      rw [demandFieldMembers] at h ⊢
      obtain ⟨next, hnext, h⟩ := exists_of_bind_eq_ok h
      rw [bind_of_eq_ok hnext]
      cases next with
      | none =>
          cases h
          exact ⟨other, rfl, hstate⟩
      | some s =>
          obtain ⟨⟨key, rest₁⟩, hkey, h⟩ := exists_of_bind_eq_ok h
          simp only [bind_of_eq_ok hkey]
          cases hfield : fields.lookup key with
          | none =>
              simp only [hfield] at h
              obtain ⟨rest₂, hcolon, h⟩ := exists_of_bind_eq_ok h
              obtain ⟨rest₃, hskip, h⟩ := exists_of_bind_eq_ok h
              obtain ⟨other', hothers, hstate'⟩ := ih hstate h
              exact ⟨other', by rw [bind_of_eq_ok hcolon, bind_of_eq_ok hskip, hothers], hstate'⟩
          | some field =>
              simp only [hfield] at h
              by_cases hseen : field ∈ seen
              · rw [if_pos hseen] at h
                cases h
              · rw [if_neg hseen] at h
                obtain ⟨rest₂, hcolon, h⟩ := exists_of_bind_eq_ok h
                obtain ⟨⟨state₁, rest₃⟩, hread₁, h⟩ := exists_of_bind_eq_ok h
                obtain ⟨other₁, hfollower, hstate₁⟩ := hread hstate hread₁
                obtain ⟨other', hothers, hstate'⟩ := ih hstate₁ h
                refine ⟨other', ?_, hstate'⟩
                simp only [if_neg hseen, bind_of_eq_ok hcolon, bind_of_eq_ok hfollower, hothers]

theorem exists_demandStructure {name : String} {fields : List (String × F)}
    {read : Nat → F → S → List Char → Except Failure (S × List Char)}
    {follower : Nat → F → T → List Char → Except Failure (T × List Char)}
    (hread : ∀ depth, Follows R (read depth) (follower depth)) {depth : Nat} (hstate : R state other)
    (h : demandStructure name fields read state depth s = .ok (state', rest)) :
    ∃ other', demandStructure name fields follower other depth s = .ok (other', rest) ∧ R state' other' := by
  unfold demandStructure at h ⊢
  split at h
  · by_cases hdepth : depth ≤ 1
    · rw [if_pos hdepth] at h
      cases h
    · rw [if_neg hdepth] at h ⊢
      exact exists_demandFieldItems (hread _) hstate h
  · by_cases hdepth : depth ≤ 1
    · rw [if_pos hdepth] at h
      cases h
    · rw [if_neg hdepth] at h ⊢
      exact exists_demandFieldMembers (hread _) hstate h
  · exact absurd h (mismatch_ne_ok _ _ _ _)

end

end CodeBlock.Json
