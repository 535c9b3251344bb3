import CodeBlock.Proofs.Json.Numbers
import CodeBlock.Proofs.Json.Strings

set_option autoImplicit false

/-! # Skipping JSON

Just the texts of the grammar are skipped: all of them, nested to any depth, and nothing else. So it can be
seen by skipping whether a text is JSON, and a text starts with one value at most, if what follows the value
has to end it. -/

namespace CodeBlock.Json

/-! ## Blanks -/

/-- Blanks are passed over. -/
theorem skipBlanks_append {gap : List Char} (h : IsBlanks gap) (s : List Char) :
    skipBlanks (gap ++ s) = skipBlanks s := by
  rw [skipBlanks, List.dropWhile_append_of_pos h, skipBlanks]

theorem skipBlanks_of_not_isBlank {c : Char} (h : isBlank c = false) (rest : List Char) :
    skipBlanks (c :: rest) = c :: rest := by
  simp [skipBlanks, h]

theorem skipBlanks_eq_nil_iff {s : List Char} : skipBlanks s = [] ↔ IsBlanks s := List.dropWhile_eq_nil_iff

/-- What stands before the next character, if the text goes on, are blanks. -/
theorem eq_append_of_skipBlanks {s after : List Char} (h : skipBlanks s = after) :
    ∃ gap, s = gap ++ after ∧ IsBlanks gap := by
  refine ⟨s.takeWhile isBlank, ?_, fun c => List.mem_takeWhile_imp⟩
  rw [← h, skipBlanks, List.takeWhile_append_dropWhile]

/-- What is left behind the blanks starts with none. -/
theorem skipBlanks_eq_cons_iff {s rest : List Char} {c : Char} :
    skipBlanks s = c :: rest ↔ isBlank c = false ∧ ∃ gap, IsBlanks gap ∧ s = gap ++ c :: rest := by
  constructor
  · intro h
    obtain ⟨gap, hs, hgap⟩ := eq_append_of_skipBlanks h
    have hhead := List.head?_dropWhile_not isBlank s
    rw [← skipBlanks, h] at hhead
    exact ⟨by simpa using hhead, gap, hgap, hs⟩
  · rintro ⟨hc, gap, hgap, rfl⟩
    rw [skipBlanks_append hgap, skipBlanks_of_not_isBlank hc]

theorem demand_eq_ok_iff {atEnd : Cause} {s rest : List Char} {c : Char} :
    demand atEnd s = .ok (c, rest) ↔
      isBlank c = false ∧ ∃ gap, IsBlanks gap ∧ s = gap ++ c :: rest := by
  rw [← skipBlanks_eq_cons_iff]
  constructor
  · intro h
    unfold demand at h
    split at h <;> cases h
    assumption
  · intro h
    rw [demand, h]

/-- The next character is the one behind the blanks. -/
theorem demand_append {gap : List Char} (hgap : IsBlanks gap) {c : Char} (hc : isBlank c = false)
    (atEnd : Cause) (rest : List Char) : demand atEnd (gap ++ c :: rest) = .ok (c, rest) :=
  demand_eq_ok_iff.2 ⟨hc, gap, hgap, rfl⟩

theorem readColon_append {gap : List Char} (hgap : IsBlanks gap) (rest : List Char) :
    readColon (gap ++ ':' :: rest) = .ok rest := by
  rw [readColon, bind_of_eq_ok (demand_append hgap (by decide) _ _)]
  rfl

theorem readColon_eq_ok_iff {s rest : List Char} :
    readColon s = .ok rest ↔ ∃ gap, IsBlanks gap ∧ s = gap ++ ':' :: rest := by
  constructor
  · intro h
    obtain ⟨⟨c, after⟩, hdemand, hcolon⟩ := exists_of_bind_eq_ok h
    obtain ⟨-, gap, hgap, hs⟩ := demand_eq_ok_iff.1 hdemand
    dsimp only at hcolon
    split_ifs at hcolon with hc
    · cases hcolon
      exact ⟨gap, hgap, by rw [hs, hc]⟩
    · cases hcolon
  · rintro ⟨gap, hgap, rfl⟩
    exact readColon_append hgap rest

/-! ## Words -/

theorem eq_append_of_readWord {word s rest : List Char} (h : readWord word s = .ok rest) :
    s = word ++ rest := by
  induction word generalizing s with
  | nil => simpa [readWord] using h
  | cons c word ih =>
      cases s with
      | nil => cases h
      | cons d s =>
          simp only [readWord] at h
          split_ifs at h with hc
          · rw [ih h, hc, List.cons_append]
          · cases h

theorem readWord_append (word rest : List Char) : readWord word (word ++ rest) = .ok rest := by
  induction word with
  | nil => simp [readWord]
  | cons c word ih => simpa [readWord] using ih

/-! ## All JSON is skipped -/

/-- What stands behind an element of a row and before its bracket ends the element. -/
theorem Derives.endsValue_items {row rest : List Char} (h : Derives (.items false) row) :
    EndsValue (row ++ ']' :: rest) := by
  cases h with
  | noItem hgap => exact hgap.endsValue_append (endsValue_cons (by decide) _)
  | item hlead _ _ =>
      rw [List.append_assoc]
      exact hlead.endsValue_append _

theorem Derives.endsValue_members {row rest : List Char} (h : Derives (.members false) row) :
    EndsValue (row ++ '}' :: rest) := by
  cases h with
  | noMember hgap => exact hgap.endsValue_append (endsValue_cons (by decide) _)
  | member hlead _ _ _ _ _ =>
      rw [List.append_assoc]
      exact hlead.endsValue_append _

/-! ### One step -/

theorem skipValueFrom_append {gap : List Char} (hgap : IsBlanks gap) (fuel : Nat) (s : List Char) :
    skipValueFrom (fuel + 1) (gap ++ s) = skipValueFrom (fuel + 1) s := by
  rw [skipValueFrom, skipBlanks_append hgap, skipValueFrom]

theorem skipValueFrom_of_isDigit {c : Char} (hc : c.isDigit = true) (fuel : Nat) (after : List Char) :
    skipValueFrom (fuel + 1) (c :: after) = skipNumber (c :: after) := by
  rw [skipValueFrom, skipBlanks_of_not_isBlank (isBlank_of_isDigit hc).1]
  simp only [ne_of_isDigit hc (show 'n'.isDigit = false by decide), if_false,
    ne_of_isDigit hc (show 't'.isDigit = false by decide),
    ne_of_isDigit hc (show 'f'.isDigit = false by decide),
    ne_of_isDigit hc (show '-'.isDigit = false by decide), hc, if_true]

/-- A row ends at its bracket. -/
theorem skipItemsFrom_close {first : Bool} {gap : List Char} (hgap : IsBlanks gap) (fuel : Nat)
    (rest : List Char) : skipItemsFrom first (fuel + 1) (gap ++ ']' :: rest) = .ok rest := by
  rw [skipItemsFrom, bind_of_eq_ok (demand_append hgap (by decide) _ _)]
  rfl

/-- Behind what leads to it an element is skipped. -/
theorem skipItemsFrom_lead {first : Bool} {lead : List Char} (hlead : IsLead first lead) {c : Char}
    (hc : isBlank c = false) (hclose : c ≠ ']') (fuel : Nat) (after : List Char) :
    skipItemsFrom first (fuel + 2) (lead ++ c :: after) =
      skipValueFrom (fuel + 1) (c :: after) >>= skipItemsFrom false (fuel + 1) := by
  cases hlead with
  | first hgap =>
      rw [skipItemsFrom, bind_of_eq_ok (demand_append hgap hc _ _)]
      simp only [if_neg hclose, if_true]
  | comma hbefore hafter =>
      rw [List.append_assoc, List.cons_append, skipItemsFrom,
        bind_of_eq_ok (demand_append hbefore (by decide) _ _)]
      simp only [if_neg (show ¬ ',' = ']' by decide), if_true, Bool.false_eq_true, if_false,
        skipValueFrom_append hafter]

/-- The members end at the brace. -/
theorem skipMembersFrom_close {first : Bool} {gap : List Char} (hgap : IsBlanks gap) (fuel : Nat)
    (rest : List Char) : skipMembersFrom first (fuel + 1) (gap ++ '}' :: rest) = .ok rest := by
  rw [skipMembersFrom, bind_of_eq_ok (demand_append hgap (by decide) _ _)]
  rfl

theorem skipMembersFrom_lead {first : Bool} {lead : List Char} (hlead : IsLead first lead) (fuel : Nat)
    (after : List Char) :
    skipMembersFrom first (fuel + 1) (lead ++ '"' :: after) =
      skipString after >>= readColon >>= skipValueFrom fuel >>= skipMembersFrom false fuel := by
  cases hlead with
  | first hgap =>
      rw [skipMembersFrom, bind_of_eq_ok (demand_append hgap (by decide) _ _)]
      simp only [if_neg (show ¬ '"' = '}' by decide), if_true, bind_assoc]
  | comma hbefore hafter =>
      rw [List.append_assoc, List.cons_append, skipMembersFrom,
        bind_of_eq_ok (demand_append hbefore (by decide) _ _)]
      simp only [if_neg (show ¬ ',' = '}' by decide), if_true, Bool.false_eq_true, if_false,
        bind_of_eq_ok (demand_append hafter (show isBlank '"' = false by decide) _ _), bind_assoc]

/-! ### Every step -/

/-- What it means for a part of JSON that it is skipped, whatever follows. -/
def Part.IsSkipped : Part → List Char → Prop
  | .value, item => ∀ ⦃fuel rest⦄, EndsValue rest → 2 * item.length ≤ fuel →
      skipValueFrom fuel (item ++ rest) = .ok rest
  | .items first, row => ∀ ⦃fuel rest⦄, 2 * row.length < fuel →
      skipItemsFrom first fuel (row ++ ']' :: rest) = .ok rest
  | .members first, row => ∀ ⦃fuel rest⦄, 2 * row.length < fuel →
      skipMembersFrom first fuel (row ++ '}' :: rest) = .ok rest

/-- A value takes one step at least. -/
theorem Part.isSkipped_value {item : List Char} (hne : item ≠ [])
    (h : ∀ ⦃fuel rest⦄, EndsValue rest → 2 * item.length ≤ fuel + 1 →
      skipValueFrom (fuel + 1) (item ++ rest) = .ok rest) : Part.IsSkipped .value item := by
  intro fuel rest hrest hfuel
  have hpos := List.length_pos_of_ne_nil hne
  obtain ⟨fuel, rfl⟩ := Nat.exists_eq_succ_of_ne_zero (n := fuel) (by omega)
  exact h hrest hfuel

theorem Part.isSkipped_items {first : Bool} {lead item row : List Char} (hlead : IsLead first lead)
    (hitem : Derives .value item) (hrow : Derives (.items false) row) (hskips : Part.IsSkipped .value item)
    (hothers : Part.IsSkipped (.items false) row) :
    Part.IsSkipped (.items first) (lead ++ (item ++ row)) := by
  intro fuel rest hfuel
  obtain ⟨c, after, rfl, hc, hclose⟩ := hitem.head
  simp only [List.length_append, List.length_cons] at hfuel
  obtain ⟨fuel, rfl⟩ := Nat.exists_eq_add_of_le' (show 2 ≤ fuel by omega)
  have hskip : skipValueFrom (fuel + 1) (c :: after ++ (row ++ ']' :: rest)) = .ok (row ++ ']' :: rest) :=
    hskips hrow.endsValue_items (by simp; omega)
  simp only [List.append_assoc, List.cons_append] at hskip ⊢
  rw [skipItemsFrom_lead hlead hc hclose, bind_of_eq_ok hskip]
  exact hothers (by omega)

theorem Part.isSkipped_members {first : Bool} {lead body gap gap' item row : List Char}
    (hlead : IsLead first lead) (hbody : IsStringBody body) (hgap : IsBlanks gap) (hgap' : IsBlanks gap')
    (hrow : Derives (.members false) row) (hskips : Part.IsSkipped .value item)
    (hothers : Part.IsSkipped (.members false) row) :
    Part.IsSkipped (.members first)
      (lead ++ '"' :: (body ++ '"' :: (gap ++ ':' :: (gap' ++ (item ++ row))))) := by
  intro fuel rest hfuel
  simp only [List.length_append, List.length_cons] at hfuel
  obtain ⟨fuel, rfl⟩ := Nat.exists_eq_add_of_le' (show 2 ≤ fuel by omega)
  have hskip : skipValueFrom (fuel + 1) (item ++ (row ++ '}' :: rest)) = .ok (row ++ '}' :: rest) :=
    hskips hrow.endsValue_members (by omega)
  simp only [List.append_assoc, List.cons_append]
  rw [skipMembersFrom_lead hlead, bind_of_eq_ok (hbody.skipString _),
    bind_of_eq_ok (readColon_append hgap _), skipValueFrom_append hgap', bind_of_eq_ok hskip]
  exact hothers (by omega)

theorem Derives.isSkipped {part : Part} {s : List Char} (h : Derives part s) : part.IsSkipped s := by
  induction h with
  | null => exact Part.isSkipped_value (by simp) fun fuel rest _ _ => readWord_append ['u', 'l', 'l'] rest
  | yes => exact Part.isSkipped_value (by simp) fun fuel rest _ _ => readWord_append ['r', 'u', 'e'] rest
  | no => exact Part.isSkipped_value (by simp) fun fuel rest _ _ => readWord_append ['a', 'l', 's', 'e'] rest
  | positive hnumber =>
      obtain ⟨c, after, rfl, hc⟩ := hnumber.head
      refine Part.isSkipped_value (by simp) fun fuel rest hrest _ => ?_
      rw [List.cons_append, skipValueFrom_of_isDigit hc]
      exact skips_skipNumber.passes hnumber hrest
  | negative hnumber =>
      exact Part.isSkipped_value (by simp) fun fuel rest hrest _ => skips_skipNumber.passes hnumber hrest
  | string hbody =>
      refine Part.isSkipped_value (by simp) fun fuel rest _ _ => ?_
      exact skipString_eq_ok_iff.2 ⟨_, hbody, by simp⟩
  | array _ ih =>
      refine Part.isSkipped_value (by simp) fun fuel rest _ hfuel => ?_
      simp only [List.length_cons, List.length_append] at hfuel
      rw [List.cons_append, List.append_assoc]
      exact ih (by omega)
  | object _ ih =>
      refine Part.isSkipped_value (by simp) fun fuel rest _ hfuel => ?_
      simp only [List.length_cons, List.length_append] at hfuel
      rw [List.cons_append, List.append_assoc]
      exact ih (by omega)
  | noItem hgap =>
      intro fuel rest hfuel
      obtain ⟨fuel, rfl⟩ := Nat.exists_eq_succ_of_ne_zero (n := fuel) (by omega)
      exact skipItemsFrom_close hgap fuel rest
  | item hlead hitem hrow ihitem ihrow => exact Part.isSkipped_items hlead hitem hrow ihitem ihrow
  | noMember hgap =>
      intro fuel rest hfuel
      obtain ⟨fuel, rfl⟩ := Nat.exists_eq_succ_of_ne_zero (n := fuel) (by omega)
      exact skipMembersFrom_close hgap fuel rest
  | member hlead hbody hgap hgap' _ hrow ihitem ihrow =>
      exact Part.isSkipped_members hlead hbody hgap hgap' hrow ihitem ihrow

/-! ## Nothing else is skipped -/

/-- What is skipped with some fuel as a value is one behind blanks. -/
def ValuesDerive (fuel : Nat) : Prop :=
  ∀ ⦃s rest⦄, skipValueFrom fuel s = .ok rest →
    ∃ gap item, IsBlanks gap ∧ Derives .value item ∧ s = gap ++ (item ++ rest)

theorem derives_of_skipItemsFrom {fuel : Nat} (hvalues : ∀ less < fuel, ValuesDerive less) {first : Bool}
    {s rest : List Char} (h : skipItemsFrom first fuel s = .ok rest) :
    ∃ row, Derives (.items first) row ∧ s = row ++ ']' :: rest := by
  induction fuel generalizing first s with
  | zero => cases h
  | succ fuel ih =>
      -- an element and the rest of the row, behind what leads to it
      have hitem : ∀ {lead s : List Char}, (∀ gap, IsBlanks gap → IsLead first (lead ++ gap)) →
          skipValueFrom fuel s >>= skipItemsFrom false fuel = .ok rest →
          ∃ row, Derives (.items first) row ∧ lead ++ s = row ++ ']' :: rest := by
        intro lead s hlead h
        obtain ⟨behind, hskip, hothers⟩ := exists_of_bind_eq_ok h
        obtain ⟨gap, item, hgap, hitem, rfl⟩ := hvalues fuel (by omega) hskip
        obtain ⟨row, hrow, rfl⟩ := ih (fun less hless => hvalues less (by omega)) hothers
        exact ⟨lead ++ gap ++ (item ++ row), .item (hlead gap hgap) hitem hrow, by simp⟩
      rw [skipItemsFrom] at h
      obtain ⟨⟨c, after⟩, hdemand, hnext⟩ := exists_of_bind_eq_ok h
      obtain ⟨-, gap, hgap, hs⟩ := demand_eq_ok_iff.1 hdemand
      dsimp only at hnext
      split_ifs at hnext with hclose hfirst hcomma
      · cases hnext
        exact ⟨gap, .noItem hgap, by rw [hs, hclose]⟩
      · subst hfirst
        obtain ⟨row, hrow, hsplit⟩ := hitem (fun gap' hgap' => .first (hgap.append hgap')) hnext
        exact ⟨row, hrow, by rw [hs, hsplit]⟩
      · rw [Bool.not_eq_true] at hfirst
        subst hfirst
        have hlead : ∀ gap', IsBlanks gap' → IsLead false (gap ++ [','] ++ gap') := by
          intro gap' hgap'
          rw [List.append_assoc]
          exact .comma hgap hgap'
        obtain ⟨row, hrow, hsplit⟩ := hitem hlead hnext
        exact ⟨row, hrow, by rw [hs, ← hsplit, hcomma, List.append_assoc, List.singleton_append]⟩
      · cases hnext

theorem derives_of_skipMembersFrom {fuel : Nat} (hvalues : ∀ less < fuel, ValuesDerive less) {first : Bool}
    {s rest : List Char} (h : skipMembersFrom first fuel s = .ok rest) :
    ∃ row, Derives (.members first) row ∧ s = row ++ '}' :: rest := by
  induction fuel generalizing first s with
  | zero => cases h
  | succ fuel ih =>
      -- a member and the rest of the row, behind what leads to it
      have hmember : ∀ {lead s : List Char}, IsLead first lead →
          skipString s >>= readColon >>= skipValueFrom fuel >>= skipMembersFrom false fuel = .ok rest →
          ∃ row, Derives (.members first) row ∧ lead ++ '"' :: s = row ++ '}' :: rest := by
        intro lead s hlead h
        obtain ⟨behind, hskip, hothers⟩ := exists_of_bind_eq_ok h
        obtain ⟨value, hlabel, hvalue⟩ := exists_of_bind_eq_ok hskip
        obtain ⟨colon, hkey, hcolon⟩ := exists_of_bind_eq_ok hlabel
        obtain ⟨body, hbody, rfl⟩ := skipString_eq_ok_iff.1 hkey
        obtain ⟨gap, hgap, rfl⟩ := readColon_eq_ok_iff.1 hcolon
        obtain ⟨gap', item, hgap', hitem, rfl⟩ := hvalues fuel (by omega) hvalue
        obtain ⟨row, hrow, rfl⟩ := ih (fun less hless => hvalues less (by omega)) hothers
        exact ⟨_, .member hlead hbody hgap hgap' hitem hrow, by simp⟩
      rw [skipMembersFrom] at h
      obtain ⟨⟨c, after⟩, hdemand, hnext⟩ := exists_of_bind_eq_ok h
      obtain ⟨-, gap, hgap, hs⟩ := demand_eq_ok_iff.1 hdemand
      dsimp only at hnext
      split_ifs at hnext with hclose hfirst hquote hcomma
      · cases hnext
        exact ⟨gap, .noMember hgap, by rw [hs, hclose]⟩
      · subst hfirst
        simp only [← bind_assoc] at hnext
        obtain ⟨row, hrow, hsplit⟩ := hmember (.first hgap) hnext
        exact ⟨row, hrow, by rw [hs, hquote, hsplit]⟩
      · cases hnext
      · rw [Bool.not_eq_true] at hfirst
        subst hfirst
        obtain ⟨⟨d, behind⟩, hdemand', hmore⟩ := exists_of_bind_eq_ok hnext
        obtain ⟨-, gap', hgap', rfl⟩ := demand_eq_ok_iff.1 hdemand'
        split_ifs at hmore with hquote
        · have hd : d = '"' := hquote
          simp only [← bind_assoc] at hmore
          obtain ⟨row, hrow, hsplit⟩ := hmember (.comma hgap hgap') hmore
          exact ⟨row, hrow, by rw [hs, ← hsplit, hcomma, hd, List.append_assoc, List.cons_append]⟩
        · cases hmore
      · cases hnext

theorem valuesDerive (fuel : Nat) : ValuesDerive fuel := by
  induction fuel using Nat.strongRecOn with
  | ind fuel ih =>
      intro s rest h
      cases fuel with
      | zero => cases h
      | succ fuel =>
          have hless : ∀ less < fuel, ValuesDerive less := fun less hless => ih less (by omega)
          rw [skipValueFrom] at h
          split at h
          · cases h
          · rename_i c after hafter
            obtain ⟨gap, rfl, hgap⟩ := eq_append_of_skipBlanks hafter
            -- the blanks in front belong to no value
            suffices hitem : ∃ item, Derives .value item ∧ c :: after = item ++ rest by
              obtain ⟨item, hitem, hs⟩ := hitem
              exact ⟨gap, item, hgap, hitem, by rw [hs]⟩
            split_ifs at h with hn ht hf hminus hdigit hquote hlist hobject
            · rw [hn, eq_append_of_readWord h]
              exact ⟨_, .null, rfl⟩
            · rw [ht, eq_append_of_readWord h]
              exact ⟨_, .yes, rfl⟩
            · rw [hf, eq_append_of_readWord h]
              exact ⟨_, .no, rfl⟩
            · obtain ⟨number, hnumber, rfl⟩ := skips_skipNumber.takes h
              exact ⟨'-' :: number, .negative hnumber, by rw [hminus, List.cons_append]⟩
            · obtain ⟨number, hnumber, hs⟩ := skips_skipNumber.takes h
              exact ⟨number, .positive hnumber, hs⟩
            · obtain ⟨body, hbody, rfl⟩ := skipString_eq_ok_iff.1 h
              exact ⟨_, .string hbody, by simp [hquote]⟩
            · obtain ⟨row, hrow, rfl⟩ := derives_of_skipItemsFrom hless h
              exact ⟨_, .array hrow, by simp [hlist]⟩
            · obtain ⟨row, hrow, rfl⟩ := derives_of_skipMembersFrom hless h
              exact ⟨_, .object hrow, by simp [hobject]⟩
            · cases h

/-- What is skipped is JSON behind blanks. -/
theorem exists_of_skipValue {s rest : List Char} (h : skipValue s = .ok rest) :
    ∃ gap item, IsBlanks gap ∧ Derives .value item ∧ s = gap ++ (item ++ rest) :=
  valuesDerive _ h

/-- JSON is skipped behind blanks, whatever follows. -/
theorem Derives.skipValue {item : List Char} (h : Derives .value item) {gap rest : List Char}
    (hgap : IsBlanks gap) (hrest : EndsValue rest) : skipValue (gap ++ (item ++ rest)) = .ok rest := by
  rw [Json.skipValue, stepsFor, skipValueFrom_append hgap]
  exact h.isSkipped hrest (by simp; omega)

/-! ## One value at most -/

theorem Derives.eq_of_append_eq {item item' rest rest' : List Char} (h : Derives .value item)
    (h' : Derives .value item') (hrest : EndsValue rest) (hrest' : EndsValue rest')
    (hs : item ++ rest = item' ++ rest') : item = item' ∧ rest = rest' := by
  have hskip := h.skipValue isBlanks_nil hrest
  rw [hs, h'.skipValue isBlanks_nil hrest', Except.ok.injEq] at hskip
  subst hskip
  exact ⟨List.append_cancel_right hs, rfl⟩

end CodeBlock.Json
