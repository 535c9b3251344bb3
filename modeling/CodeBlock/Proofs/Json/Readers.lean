import CodeBlock.Proofs.Json.Rows

set_option autoImplicit false

/-! # Readers go by the text of a value

What is read as a value means that value in every sense in which its words, numbers and strings mean what they
are read as, and an array or an object what is in it (`IsMeaning.isFaithful`). One such sense is to be read the
same everywhere: what a reader takes for a value is JSON, and the value that it reads depends on that JSON alone,
neither on the blanks before it, nor on what follows, nor on how long the text is in which it stands. This holds
of the reader of all JSON and of the readers of JSON of a given shape. -/

namespace CodeBlock.Json

variable {α : Type}

/-! ## One value -/

/-- One value behind its blanks, and what follows it. -/
inductive ValueRead (depth fuel : Nat) : List Char → Json → List Char → Prop
  | null {rest : List Char} : ValueRead depth fuel ('n' :: 'u' :: 'l' :: 'l' :: rest) .null rest
  | yes {rest : List Char} : ValueRead depth fuel ('t' :: 'r' :: 'u' :: 'e' :: rest) (.bool true) rest
  | no {rest : List Char} :
      ValueRead depth fuel ('f' :: 'a' :: 'l' :: 's' :: 'e' :: rest) (.bool false) rest
  | negative {s rest : List Char} {j : Json} :
      readNumber false s = .ok (j, rest) → ValueRead depth fuel ('-' :: s) j rest
  | positive {s rest : List Char} {j : Json} :
      readNumber true s = .ok (j, rest) → ValueRead depth fuel s j rest
  | string {s rest : List Char} {text : String} :
      readString s = .ok (text, rest) → ValueRead depth fuel ('"' :: s) (.string text) rest
  | array {s rest : List Char} {items : List Json} :
      1 < depth → readItemsFrom (depth - 1) true fuel s = .ok (items, rest) →
      ValueRead depth fuel ('[' :: s) (.array items) rest
  | object {s rest : List Char} {members : List (String × Json)} :
      1 < depth → readMembersFrom (depth - 1) true fuel s = .ok (members, rest) →
      ValueRead depth fuel ('\x7b' :: s) (.object (Table.ofEntries members)) rest

theorem valueRead_of_readValueFrom {depth fuel : Nat} {s rest : List Char} {j : Json}
    (h : readValueFrom depth (fuel + 1) s = .ok (j, rest)) :
    ∃ gap after, s = gap ++ after ∧ IsBlanks gap ∧ ValueRead depth fuel after j rest := by
  simp only [readValueFrom] at h
  split at h
  · cases h
  · rename_i c after hafter
    obtain ⟨gap, rfl, hgap⟩ := eq_append_of_skipBlanks hafter
    refine ⟨gap, c :: after, rfl, hgap, ?_⟩
    -- the first character tells the values apart
    split_ifs at h with hn ht hf hminus hdigit hquote hlist hdeep hobject hdeep
    · obtain ⟨last, hword, h⟩ := exists_of_bind_eq_ok h
      cases h
      rw [hn, eq_append_of_readWord hword]
      exact .null
    · obtain ⟨last, hword, h⟩ := exists_of_bind_eq_ok h
      cases h
      rw [ht, eq_append_of_readWord hword]
      exact .yes
    · obtain ⟨last, hword, h⟩ := exists_of_bind_eq_ok h
      cases h
      rw [hf, eq_append_of_readWord hword]
      exact .no
    · rw [hminus]
      exact .negative h
    · exact .positive h
    · obtain ⟨⟨text, last⟩, htext, h⟩ := exists_of_bind_eq_ok h
      cases h
      rw [hquote]
      exact .string htext
    · cases h
    · obtain ⟨⟨items, last⟩, hitems, h⟩ := exists_of_bind_eq_ok h
      cases h
      rw [hlist]
      exact .array (by omega) hitems
    · cases h
    · obtain ⟨⟨members, last⟩, hmembers, h⟩ := exists_of_bind_eq_ok h
      cases h
      rw [hobject]
      exact .object (by omega) hmembers
    · cases h

theorem readValueFrom_of_valueRead {depth fuel : Nat} {gap s rest : List Char} {j : Json}
    (hgap : IsBlanks gap) (h : ValueRead depth fuel s j rest) :
    readValueFrom depth (fuel + 1) (gap ++ s) = .ok (j, rest) := by
  rw [readValueFrom, skipBlanks_append hgap]
  cases h with
  | null => rfl
  | yes => rfl
  | no => rfl
  | negative hnumber => exact hnumber
  | positive hnumber =>
      obtain ⟨number, hunsigned, rfl, -⟩ := takes_readNumber hnumber
      obtain ⟨c, after, rfl, hc⟩ := hunsigned.head
      rw [List.cons_append] at hnumber ⊢
      -- a digit is none of the characters that are looked for first
      rw [skipBlanks_of_not_isBlank (isBlank_of_isDigit hc).1]
      simp only [ne_of_isDigit hc (show 'n'.isDigit = false by decide), if_false,
        ne_of_isDigit hc (show 't'.isDigit = false by decide),
        ne_of_isDigit hc (show 'f'.isDigit = false by decide),
        ne_of_isDigit hc (show '-'.isDigit = false by decide), hc, if_true]
      exact hnumber
  | string htext => exact bind_of_eq_ok htext _
  | array hdepth hitems =>
      have hdeep : ¬ depth ≤ 1 := by omega
      simp only [skipBlanks_of_not_isBlank (show isBlank '[' = false by decide), if_neg hdeep,
        bind_of_eq_ok hitems]
      rfl
  | object hdepth hmembers =>
      have hdeep : ¬ depth ≤ 1 := by omega
      simp only [skipBlanks_of_not_isBlank (show isBlank '{' = false by decide), if_neg hdeep,
        bind_of_eq_ok hmembers]
      rfl

/-! ## What values mean -/

/-- The meaning of texts as JSON, by the depth that is left, if it covers the words, numbers and strings, and
    with all that is in it an array or an object. -/
structure IsMeaning (Means : Nat → List Char → Json → Prop) : Prop where
  null : ∀ {depth}, Means depth ['n', 'u', 'l', 'l'] .null
  yes : ∀ {depth}, Means depth ['t', 'r', 'u', 'e'] (.bool true)
  no : ∀ {depth}, Means depth ['f', 'a', 'l', 's', 'e'] (.bool false)
  positive : ∀ {depth number j}, ReadsNumber true number j → Means depth number j
  negative : ∀ {depth number j}, ReadsNumber false number j → Means depth ('-' :: number) j
  string : ∀ {depth body text}, Spells body text.toList →
    Means depth ('"' :: (body ++ ['"'])) (.string text)
  array : ∀ {depth row items}, 1 < depth → Row (Means (depth - 1)) true row items →
    Means depth ('[' :: (row ++ [']'])) (.array items)
  object : ∀ {depth row members}, 1 < depth → Members (Means (depth - 1)) true row members →
    Means depth ('{' :: (row ++ ['}'])) (.object (Table.ofEntries members))

theorem IsMeaning.isFaithful {Means : Nat → List Char → Json → Prop} (hmeans : IsMeaning Means) (fuel : Nat) :
    ∀ depth, IsFaithful (Means depth) (readValueFrom depth fuel) := by
  -- by induction on the fuel, over all depths: an array or an object passes less of it on to what is inside
  induction fuel using Nat.strongRecOn with
  | ind fuel ih =>
      intro depth s j rest h
      cases fuel with
      | zero => cases h
      | succ fuel =>
          obtain ⟨gap, s, rfl, hgap, hvalue⟩ := valueRead_of_readValueFrom h
          suffices hitem : ∃ item, Means depth item j ∧ s = item ++ rest by
            obtain ⟨item, hitem, rfl⟩ := hitem
            exact ⟨gap, item, hgap, hitem, rfl⟩
          have hless : ∀ less < fuel, IsFaithful (Means (depth - 1)) (readValueFrom (depth - 1) less) :=
            fun less hless => ih less (by omega) (depth - 1)
          cases hvalue with
          | null => exact ⟨_, hmeans.null, rfl⟩
          | yes => exact ⟨_, hmeans.yes, rfl⟩
          | no => exact ⟨_, hmeans.no, rfl⟩
          | negative h =>
              obtain ⟨number, hnumber, rfl⟩ := exists_readsNumber h
              exact ⟨'-' :: number, hmeans.negative hnumber, rfl⟩
          | positive h =>
              obtain ⟨number, hnumber, rfl⟩ := exists_readsNumber h
              exact ⟨number, hmeans.positive hnumber, rfl⟩
          | string htext =>
              obtain ⟨body, hbody, rfl⟩ := readString_eq_ok_iff.1 htext
              exact ⟨_, hmeans.string hbody, by simp⟩
          | array hdepth hitems =>
              rw [readItemsFrom_eq] at hitems
              obtain ⟨row, hrow, rfl⟩ := exists_row hless hitems
              exact ⟨_, hmeans.array hdepth hrow, by simp⟩
          | object hdepth hmembers =>
              rw [readMembersFrom_eq] at hmembers
              obtain ⟨row, hrow, rfl⟩ := exists_members hless hmembers
              exact ⟨_, hmeans.object hdepth hrow, by simp⟩

/-- What a text denotes as a whole is meant by the value in it. -/
theorem IsMeaning.exists_of_ofText {Means : Nat → List Char → Json → Prop} (hmeans : IsMeaning Means)
    {s : List Char} {j : Json} (h : ofText s = .ok j) :
    ∃ before item after, IsBlanks before ∧ IsBlanks after ∧ Means maxDepth item j ∧
      s = before ++ (item ++ after) := by
  obtain ⟨⟨value, after⟩, hread, hend⟩ := exists_of_bind_eq_ok h
  unfold expectEnd at hend
  split at hend
  case h_2 => cases hend
  rename_i hafter
  cases hend
  obtain ⟨before, item, hbefore, hitem, hs⟩ := hmeans.isFaithful _ _ hread
  exact ⟨before, item, after, hbefore, skipBlanks_eq_nil_iff.1 hafter, hitem, hs⟩

/-! ## All JSON -/

/-- JSON that is read without blanks before it, with twice as much fuel as it has characters. -/
theorem readsFrom_of_valueRead {depth : Nat} {item : List Char} {j : Json} (hjson : Derives .value item)
    (hreads : ∀ ⦃fuel rest⦄, 2 * item.length ≤ fuel + 1 → EndsValue rest →
      ValueRead depth fuel (item ++ rest) j rest) :
    ReadsFrom (fun n => 2 * n) (readValueFrom depth) item j := by
  refine ⟨hjson, fun fuel gap rest hfuel hgap hrest => ?_⟩
  obtain ⟨c, after, rfl, -⟩ := hjson.head
  obtain ⟨fuel, rfl⟩ := Nat.exists_eq_succ_of_ne_zero (n := fuel) (by simp at hfuel; omega)
  exact readValueFrom_of_valueRead hgap (hreads hfuel hrest)

theorem strictMono_double : StrictMono fun n : Nat => 2 * n := fun a b hlt => by
  show 2 * a < 2 * b
  omega

/-- To be read with twice as much fuel as there are characters is a meaning. -/
theorem isMeaning_readsFrom : IsMeaning fun depth => ReadsFrom (fun n => 2 * n) (readValueFrom depth) where
  null := readsFrom_of_valueRead .null fun _ _ _ _ => .null
  yes := readsFrom_of_valueRead .yes fun _ _ _ _ => .yes
  no := readsFrom_of_valueRead .no fun _ _ _ _ => .no
  positive hnumber :=
    readsFrom_of_valueRead (.positive hnumber.isUnsigned) fun _ _ _ hrest => .positive (hnumber.reads hrest)
  negative hnumber :=
    readsFrom_of_valueRead (.negative hnumber.isUnsigned) fun _ _ _ hrest => .negative (hnumber.reads hrest)
  string hbody := by
    refine readsFrom_of_valueRead (.string hbody.isStringBody) fun fuel rest _ _ => ?_
    rw [List.cons_append, List.append_assoc]
    exact .string (hbody.readString rest)
  array {depth row items} hdepth hrow := by
    refine readsFrom_of_valueRead (.array (hrow.derives ReadsFrom.isJson)) fun fuel rest hfuel _ => ?_
    simp only [List.length_cons, List.length_append] at hfuel
    have hitems := hrow.readRow strictMono_double (show 2 * row.length < fuel by omega) rest
    rw [← readItemsFrom_eq] at hitems
    rw [List.cons_append, List.append_assoc]
    exact .array hdepth hitems
  object {depth row members} hdepth hrow := by
    refine readsFrom_of_valueRead (.object (hrow.derives ReadsFrom.isJson)) fun fuel rest hfuel _ => ?_
    simp only [List.length_cons, List.length_append] at hfuel
    have hmembers := hrow.readMembers strictMono_double (show 2 * row.length < fuel by omega) rest
    rw [← readMembersFrom_eq] at hmembers
    rw [List.cons_append, List.append_assoc]
    exact .object hdepth hmembers

theorem isLocal_readValue (depth : Nat) : IsLocal (readValue depth) := by
  intro s j rest h
  obtain ⟨gap, item, hgap, hitem, rfl⟩ := isMeaning_readsFrom.isFaithful _ depth h
  refine ⟨gap, item, hgap, ⟨hitem.isJson, fun fuel gap rest _ hgap hrest => ?_⟩, rfl⟩
  exact hitem.reads (by simp [stepsFor]; omega) hgap hrest

/-! ## Scalars -/

theorem demandString_quote {gap : List Char} (hgap : IsBlanks gap) (expected : String) (rest : List Char) :
    demandString expected (gap ++ '"' :: rest) = readString rest := by
  rw [demandString, skipBlanks_append hgap]
  rfl

theorem exists_of_demandString {expected : String} {s rest : List Char} {text : String}
    (h : demandString expected s = .ok (text, rest)) :
    ∃ gap body, IsBlanks gap ∧ Spells body text.toList ∧ s = gap ++ '"' :: (body ++ '"' :: rest) := by
  unfold demandString at h
  split at h
  · rename_i after hafter
    obtain ⟨gap, rfl, hgap⟩ := eq_append_of_skipBlanks hafter
    obtain ⟨body, hbody, rfl⟩ := readString_eq_ok_iff.1 h
    exact ⟨gap, body, hgap, hbody, rfl⟩
  · exact absurd h (mismatch_ne_ok _ _ _ _)

theorem isLocal_demandText : IsLocal demandText := by
  intro s text rest h
  obtain ⟨gap, body, hgap, hbody, rfl⟩ := exists_of_demandString h
  refine ⟨gap, _, hgap, ⟨.string hbody.isStringBody, fun fuel gap rest _ hgap _ => ?_⟩, by simp⟩
  rw [List.cons_append, List.append_assoc, demandText, demandString_quote hgap]
  exact hbody.readString rest

/-- `null` stands behind its blanks. -/
theorem demandNull_append {gap : List Char} (hgap : IsBlanks gap) (rest : List Char) :
    demandNull (gap ++ 'n' :: 'u' :: 'l' :: 'l' :: rest) = .ok rest := by
  rw [demandNull, skipBlanks_append hgap]
  rfl

theorem exists_of_demandNull {s rest : List Char} (h : demandNull s = .ok rest) :
    ∃ gap, IsBlanks gap ∧ s = gap ++ 'n' :: 'u' :: 'l' :: 'l' :: rest := by
  unfold demandNull at h
  split at h
  · rename_i after hafter
    obtain ⟨gap, rfl, hgap⟩ := eq_append_of_skipBlanks hafter
    exact ⟨gap, hgap, by rw [eq_append_of_readWord h]; rfl⟩
  · exact absurd h (mismatch_ne_ok _ _ _ _)

theorem isLocal_demandOption {read : List Char → Except Failure (α × List Char)} (hread : IsLocal read) :
    IsLocal (demandOption read) := by
  intro s x rest h
  unfold demandOption at h
  split at h
  · rename_i after hafter
    obtain ⟨gap, rfl, hgap⟩ := eq_append_of_skipBlanks hafter
    split at h
    · rename_i last hword
      cases h
      refine ⟨gap, _, hgap, ⟨.null, fun fuel gap rest _ hgap _ => ?_⟩,
        congrArg (gap ++ 'n' :: ·) (eq_append_of_readWord hword)⟩
      rw [demandOption, skipBlanks_append hgap]
      rfl
    · cases h
  · rename_i hnull
    split at h
    · rename_i x last hx
      cases h
      obtain ⟨gap, item, hgap, hitem, hs⟩ := hread hx
      obtain ⟨before, hblanks, hbefore⟩ := eq_append_of_skipBlanks (rfl : skipBlanks s = _)
      rw [hs, ← List.append_assoc] at hblanks
      have hlead : IsBlanks (before ++ gap) := IsBlanks.append hbefore hgap
      obtain ⟨c, after, rfl, hc, -⟩ := hitem.isJson.head
      -- it does not start with the letter of `null`, for then it would have been read as that
      have hne : c ≠ 'n' := by
        rintro rfl
        exact hnull _ (skipBlanks_eq_cons_iff.2 ⟨hc, before ++ gap, hlead, hblanks⟩)
      refine ⟨before ++ gap, _, hlead, ⟨hitem.isJson, fun fuel gap' rest' _ hgap' hrest' => ?_⟩, hblanks⟩
      have hreads := hitem.read_append isBlanks_nil hrest'
      rw [List.nil_append] at hreads
      rw [demandOption, skipBlanks_append hgap', List.cons_append, skipBlanks_of_not_isBlank hc]
      split
      · rename_i heq
        exact absurd (List.cons.inj heq).1 hne
      · rw [← List.cons_append, hreads]
    · cases h

/-! ## Words -/

theorem exists_of_demandName {choices : List (String × α)} {s rest : List Char} {x : α}
    (h : demandName choices s = .ok (x, rest)) :
    ∃ gap body name, IsBlanks gap ∧ Spells body name.toList ∧ choices.lookup name = some x ∧
      s = gap ++ '"' :: (body ++ '"' :: rest) := by
  unfold demandName at h
  split at h
  · cases h
  · rename_i name last hname
    split at h
    · rename_i x hx
      cases h
      obtain ⟨gap, body, hgap, hbody, hs⟩ := exists_of_demandString hname
      exact ⟨gap, body, name, hgap, hbody, hx, hs⟩
    · cases h

theorem demandName_quote {choices : List (String × α)} {gap body : List Char} {name : String} {x : α}
    (hgap : IsBlanks gap) (hbody : Spells body name.toList) (hx : choices.lookup name = some x)
    (rest : List Char) : demandName choices (gap ++ '"' :: (body ++ '"' :: rest)) = .ok (x, rest) := by
  rw [demandName, demandString_quote hgap, hbody.readString]
  simp only [hx]

theorem isLocal_demandChoice (choices : List (String × α)) (depth : Nat) :
    IsLocal (demandChoice choices depth) := by
  intro s x rest h
  unfold demandChoice at h
  split at h
  · cases h
  · -- the name alone
    rename_i after hafter
    obtain ⟨gap, rfl, hgap⟩ := eq_append_of_skipBlanks hafter
    obtain ⟨gap', body, name, hgap', hbody, hx, hs⟩ := exists_of_demandName h
    refine ⟨gap ++ gap', _, IsBlanks.append hgap hgap',
      ⟨.string hbody.isStringBody, fun fuel gap rest _ hgap _ => ?_⟩, by simp [hs]⟩
    rw [List.cons_append, List.append_assoc, demandChoice, skipBlanks_append hgap]
    exact demandName_quote isBlanks_nil hbody hx rest
  · -- an object with the name over `null`
    rename_i after hafter
    obtain ⟨gap, rfl, hgap⟩ := eq_append_of_skipBlanks hafter
    split_ifs at h with hdepth
    · cases h
    · obtain ⟨⟨x, behind⟩, hname, h⟩ := exists_of_bind_eq_ok h
      obtain ⟨value, hcolon, h⟩ := exists_of_bind_eq_ok h
      obtain ⟨last, hnull, h⟩ := exists_of_bind_eq_ok h
      split at h
      · cases h
      · rename_i hlast
        cases h
        obtain ⟨gap₁, body, name, hgap₁, hbody, hx, rfl⟩ := exists_of_demandName hname
        obtain ⟨gap₂, hgap₂, rfl⟩ := readColon_eq_ok_iff.1 hcolon
        obtain ⟨gap₃, hgap₃, rfl⟩ := exists_of_demandNull hnull
        obtain ⟨gap₄, rfl, hgap₄⟩ := eq_append_of_skipBlanks hlast
        have hjson := Derives.object
          (.member (.first hgap₁) hbody.isStringBody hgap₂ hgap₃ .null (.noMember hgap₄))
        refine ⟨gap, _, hgap, ⟨hjson, fun fuel gap rest _ hgap _ => ?_⟩, by simp⟩
        simp only [List.cons_append, List.append_assoc, List.nil_append]
        rw [demandChoice, skipBlanks_append hgap, skipBlanks_of_not_isBlank (by decide)]
        simp only [if_neg hdepth, bind_of_eq_ok (demandName_quote hgap₁ hbody hx _),
          bind_of_eq_ok (readColon_append hgap₂ _), bind_of_eq_ok (demandNull_append hgap₃ _),
          skipBlanks_append hgap₄, skipBlanks_of_not_isBlank (show isBlank '}' = false by decide)]
      · cases h
  · cases h

/-! ## Lists and objects -/

theorem isLocal_demandList {read : Nat → List Char → Except Failure (α × List Char)}
    (hread : ∀ depth, IsLocal (read depth)) (depth : Nat) : IsLocal (demandList read depth) := by
  intro s xs rest h
  unfold demandList at h
  split at h
  · rename_i after hafter
    obtain ⟨gap, rfl, hgap⟩ := eq_append_of_skipBlanks hafter
    split_ifs at h with hdepth
    · cases h
    · rw [demandItems_eq] at h
      obtain ⟨row, hrow, rfl⟩ := exists_row (fun _ _ => hread _) h
      refine ⟨gap, _, hgap,
        ⟨.array (hrow.derives ReadsFrom.isJson), fun fuel gap rest _ hgap _ => ?_⟩, by simp⟩
      rw [demandList, skipBlanks_append hgap, List.cons_append, List.append_assoc,
        skipBlanks_of_not_isBlank (by decide)]
      simp only [if_neg hdepth, demandItems_eq]
      exact hrow.readRow strictMono_id (lt_length_append_add_one _ _) rest
  · exact absurd h (mismatch_ne_ok _ _ _ _)

theorem isLocal_demandObject {read : Nat → List Char → Except Failure (α × List Char)}
    (hread : ∀ depth, IsLocal (read depth)) (depth : Nat) : IsLocal (demandObject read depth) := by
  intro s xs rest h
  unfold demandObject at h
  split at h
  · rename_i after hafter
    obtain ⟨gap, rfl, hgap⟩ := eq_append_of_skipBlanks hafter
    split_ifs at h with hdepth
    · cases h
    · obtain ⟨⟨members, last⟩, hmembers, h⟩ := exists_of_bind_eq_ok h
      cases h
      rw [demandMembers_eq] at hmembers
      obtain ⟨row, hrow, rfl⟩ := exists_members (fun _ _ => hread _) hmembers
      refine ⟨gap, _, hgap,
        ⟨.object (hrow.derives ReadsFrom.isJson), fun fuel gap rest _ hgap _ => ?_⟩, by simp⟩
      rw [demandObject, skipBlanks_append hgap, List.cons_append, List.append_assoc,
        skipBlanks_of_not_isBlank (by decide)]
      simp only [if_neg hdepth, demandMembers_eq]
      exact bind_of_eq_ok (hrow.readMembers strictMono_id (lt_length_append_add_one _ _) rest) _
  · exact absurd h (mismatch_ne_ok _ _ _ _)

end CodeBlock.Json
