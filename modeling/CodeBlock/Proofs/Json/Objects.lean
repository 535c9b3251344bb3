import CodeBlock.Proofs.Json.Readers

set_option autoImplicit false

/-! # Structures are read by their keys

What an object gives to a structure is told by its members alone: the known ones, each at most once, put what
their values are read as into their fields, and the others do nothing (`Gathers`). If putting into two fields
may be done in either order, then so may two members be written; and members with other keys may be written
anywhere. -/

namespace CodeBlock.Json

/-! ## Objects as texts -/

/-- JSON, taken as it is written. -/
def IsVerbatim (item text : List Char) : Prop := Derives .value item ∧ item = text

/-- A text that is an object with these members. The keys are texts, each spelled in any way; the values are as
    they are written; and there may be blanks wherever there can be some. -/
def IsObject (members : List (String × List Char)) (s : List Char) : Prop :=
  ∃ before row after, IsBlanks before ∧ IsBlanks after ∧ Members IsVerbatim true row members ∧
    s = before ++ '{' :: (row ++ '}' :: after)

/-- Takes a value as it is written. -/
def takeValue (s : List Char) : Except Failure (List Char × List Char) := do
  let rest ← skipValue s
  return ((skipBlanks s).take ((skipBlanks s).length - rest.length), rest)

/-- Takes the members of an object, their values as they are written. -/
def takeObject (s : List Char) : Except Failure (List (String × List Char) × List Char) :=
  match skipBlanks s with
  | '{' :: rest => readMembers (fun _ => takeValue) true (rest.length + 1) rest
  | s => failHere .expectedValue s

/-- Where a value is skipped it is taken. -/
theorem takeValue_of_skipValue {gap item rest : List Char} (h : Derives .value item)
    (hgap : IsBlanks gap) (hskip : skipValue (gap ++ (item ++ rest)) = .ok rest) :
    takeValue (gap ++ (item ++ rest)) = .ok (item, rest) := by
  obtain ⟨c, after, rfl, hc, -⟩ := h.head
  rw [takeValue, bind_of_eq_ok hskip, skipBlanks_append hgap, List.cons_append, skipBlanks_of_not_isBlank hc,
    ← List.cons_append, List.length_append, Nat.add_sub_cancel, List.take_left]
  rfl

theorem Derives.takeValue {item : List Char} (h : Derives .value item) {gap rest : List Char}
    (hgap : IsBlanks gap) (hrest : EndsValue rest) : takeValue (gap ++ (item ++ rest)) = .ok (item, rest) :=
  takeValue_of_skipValue h hgap (h.skipValue hgap hrest)

/-- What is taken is what is written. -/
theorem readsAs_takeValue_iff {item text : List Char} :
    ReadsAs takeValue item text ↔ IsVerbatim item text := by
  constructor
  · intro h
    have htaken := h.read_append isBlanks_nil endsValue_nil
    rw [h.isJson.takeValue isBlanks_nil endsValue_nil] at htaken
    cases htaken
    exact ⟨h.isJson, rfl⟩
  · rintro ⟨h, rfl⟩
    exact ⟨h, fun _ _ _ _ hgap hrest => h.takeValue hgap hrest⟩

theorem isLocal_takeValue : IsLocal takeValue := by
  intro s text rest h
  obtain ⟨after, hskip, hafter⟩ := exists_of_bind_eq_ok h
  obtain rfl : after = rest := (Prod.mk.inj (Except.ok.inj hafter)).2
  obtain ⟨gap, item, hgap, hitem, rfl⟩ := exists_of_skipValue hskip
  rw [takeValue_of_skipValue hitem hgap hskip] at h
  cases h
  exact ⟨gap, text, hgap, readsAs_takeValue_iff.2 ⟨hitem, rfl⟩, rfl⟩

theorem isObject_iff {members : List (String × List Char)} {s : List Char} :
    IsObject members s ↔ ∃ rest, takeObject s = .ok (members, rest) ∧ IsBlanks rest := by
  constructor
  · rintro ⟨before, row, after, hbefore, hafter, hrow, rfl⟩
    have hfuel := lt_length_append_add_one row ('}' :: after)
    have hread := (hrow.imp readsAs_takeValue_iff.2).readMembers strictMono_id hfuel after
    refine ⟨after, ?_, hafter⟩
    rw [takeObject, skipBlanks_append hbefore, skipBlanks_of_not_isBlank (by decide)]
    exact hread
  · rintro ⟨rest, h, hrest⟩
    unfold takeObject at h
    split at h
    · rename_i after hafter
      obtain ⟨before, rfl, hbefore⟩ := eq_append_of_skipBlanks hafter
      obtain ⟨row, hrow, rfl⟩ := exists_members (fun _ _ => isLocal_takeValue) h
      exact ⟨before, row, rest, hbefore, hrest, hrow.imp readsAs_takeValue_iff.1, rfl⟩
    · cases h

theorem IsObject.eq {members members' : List (String × List Char)} {s : List Char} (h : IsObject members s)
    (h' : IsObject members' s) : members = members' := by
  obtain ⟨rest, htake, -⟩ := isObject_iff.1 h
  obtain ⟨rest', htake', -⟩ := isObject_iff.1 h'
  rw [htake] at htake'
  exact (Prod.mk.inj (Except.ok.inj htake')).1

section

variable {F S : Type} {Content : F → Type}

section

variable (fields : List (String × F)) (read : ∀ field, List Char → Except Failure (Content field × List Char))
  (put : S → ∀ field, Content field → S)

/-- What members make of a state, one after the other: each known one puts the content of its field, unless
    that field is one of those `seen` before, and the others change nothing. -/
inductive Gathers : List F → S → List (String × List Char) → S → Prop
  | nil {seen : List F} {state : S} : Gathers seen state [] state
  | other {seen : List F} {state state' : S} {key : String} {item : List Char}
      {members : List (String × List Char)} :
      fields.lookup key = none → Gathers seen state members state' →
      Gathers seen state ((key, item) :: members) state'
  | field {seen : List F} {state state' : S} {key : String} {item : List Char}
      {members : List (String × List Char)} {field : F} {x : Content field} :
      fields.lookup key = some field → field ∉ seen → ReadsAs (read field) item x →
      Gathers (field :: seen) (put state field x) members state' →
      Gathers seen state ((key, item) :: members) state'

/-- Whether it does not matter into which of two fields a content is put first. -/
def PutsApart : Prop :=
  ∀ ⦃field other⦄, field ≠ other → ∀ state x y,
    put (put state field x) other y = put (put state other y) field x

/-- A reader of fields that reads the content of a field, by the text of a value, and puts it in. -/
structure ReadsFields (readField : F → S → List Char → Except Failure (S × List Char)) : Prop where
  isLocal : ∀ field, IsLocal (read field)
  readField_eq : ∀ field state s,
    readField field state s = read field s >>= fun reading => .ok (put state field reading.1, reading.2)

end

variable {fields : List (String × F)} {read : ∀ field, List Char → Except Failure (Content field × List Char)}
  {put : S → ∀ field, Content field → S} {seen : List F} {state state' : S}
  {members members' more : List (String × List Char)}

theorem gathers_cons_iff_of_lookup_eq_none {key : String} {item : List Char}
    (hkey : fields.lookup key = none) :
    Gathers fields read put seen state ((key, item) :: members) state' ↔
      Gathers fields read put seen state members state' := by
  constructor
  · intro h
    cases h with
    | other _ h => exact h
    | field hfield _ _ _ => exact absurd (hkey.symm.trans hfield) (by simp)
  · exact .other hkey

theorem gathers_cons_iff_of_lookup_eq_some {key : String} {item : List Char} {field : F}
    (hkey : fields.lookup key = some field) :
    Gathers fields read put seen state ((key, item) :: members) state' ↔
      field ∉ seen ∧ ∃ x, ReadsAs (read field) item x ∧
        Gathers fields read put (field :: seen) (put state field x) members state' := by
  constructor
  · intro h
    cases h with
    | other hother _ => exact absurd (hkey.symm.trans hother) (by simp)
    | field hfield hnew hreads h =>
        cases Option.some.inj (hkey.symm.trans hfield)
        exact ⟨hnew, _, hreads, h⟩
  · rintro ⟨hnew, x, hreads, h⟩
    exact .field hkey hnew hreads h

/-! ## Members in any order -/

/-- The order in which fields were seen does not matter. -/
theorem Gathers.of_mem_iff (h : Gathers fields read put seen state members state') {seen' : List F}
    (hseen : ∀ field, field ∈ seen' ↔ field ∈ seen) : Gathers fields read put seen' state members state' := by
  induction h generalizing seen' with
  | nil => exact .nil
  | other hkey _ ih => exact .other hkey (ih hseen)
  | @field _ _ _ _ _ _ field _ hkey hnew hread _ ih =>
      refine .field hkey (fun hmem => hnew ((hseen field).1 hmem)) hread (ih fun other => ?_)
      rw [List.mem_cons, List.mem_cons, hseen]

/-- Two members may change places. -/
theorem Gathers.swap (hput : PutsApart put) {a b : String × List Char}
    (h : Gathers fields read put seen state (a :: b :: members) state') :
    Gathers fields read put seen state (b :: a :: members) state' := by
  cases h with
  | other hkey h =>
      cases h with
      | other hkey' h => exact .other hkey' (.other hkey h)
      | field hkey' hnew' hread' h => exact .field hkey' hnew' hread' (.other hkey h)
  | @field _ _ _ _ _ _ field _ hkey hnew hread h =>
      cases h with
      | other hkey' h => exact .other hkey' (.field hkey hnew hread h)
      | @field _ _ _ _ _ _ other _ hkey' hnew' hread' h =>
          -- two known members have different fields, for the second was not seen before
          rw [List.mem_cons, not_or] at hnew'
          have hnew'' : field ∉ other :: seen := by
            rw [List.mem_cons, not_or]
            exact ⟨Ne.symm hnew'.1, hnew⟩
          rw [hput (Ne.symm hnew'.1) _ _ _] at h
          refine .field hkey' hnew'.2 hread' (.field hkey hnew'' hread (h.of_mem_iff fun field => ?_))
          simp only [List.mem_cons]
          exact or_left_comm

/-- Members may be written in any order. -/
theorem Gathers.of_perm (hput : PutsApart put) (hperm : members.Perm members')
    (h : Gathers fields read put seen state members state') :
    Gathers fields read put seen state members' state' := by
  induction hperm generalizing seen state with
  | nil => exact h
  | cons member _ ih =>
      cases h with
      | other hkey h => exact .other hkey (ih h)
      | field hkey hnew hread h => exact .field hkey hnew hread (ih h)
  | swap a b members => exact h.swap hput
  | trans _ _ ih ih' => exact ih' (ih h)

/-- Members with other keys change nothing. -/
theorem gathers_append_iff (hmore : ∀ member ∈ more, fields.lookup member.1 = none) :
    Gathers fields read put seen state (more ++ members) state' ↔
      Gathers fields read put seen state members state' := by
  induction more with
  | nil => rfl
  | cons member more ih =>
      rw [List.forall_mem_cons] at hmore
      rw [List.cons_append, gathers_cons_iff_of_lookup_eq_none hmore.1, ih hmore.2]

/-- Members may be written in any order, and members with other keys anywhere among them. -/
theorem gathers_iff_of_perm (hput : PutsApart put)
    (hmore : ∀ member ∈ more, fields.lookup member.1 = none) (hperm : members'.Perm (members ++ more)) :
    Gathers fields read put seen state members' state' ↔
      Gathers fields read put seen state members state' := by
  have hperm' : members'.Perm (more ++ members) := hperm.trans List.perm_append_comm
  exact Iff.trans ⟨.of_perm hput hperm', .of_perm hput hperm'.symm⟩ (gathers_append_iff hmore)

/-! ## What is read from the members -/

theorem IsLocal.readsAs {α : Type} {read : List Char → Except Failure (α × List Char)} (hread : IsLocal read)
    {gap item rest rest' : List Char} {x : α} (hgap : IsBlanks gap) (hitem : Derives .value item)
    (hrest : EndsValue rest) (hrest' : EndsValue rest')
    (h : read (gap ++ (item ++ rest)) = .ok (x, rest')) : ReadsAs read item x ∧ rest' = rest := by
  obtain ⟨gap', item', hgap', hitem', hs⟩ := hread h
  have hskip : item ++ rest = item' ++ rest' := by
    obtain ⟨c, after, rfl, hc, -⟩ := hitem.head
    obtain ⟨d, behind, rfl, hd, -⟩ := hitem'.isJson.head
    have hblanks := congrArg skipBlanks hs
    rwa [skipBlanks_append hgap, skipBlanks_append hgap', List.cons_append, List.cons_append,
      skipBlanks_of_not_isBlank hc, skipBlanks_of_not_isBlank hd] at hblanks
  obtain ⟨rfl, rfl⟩ := hitem.eq_of_append_eq hitem'.isJson hrest hrest' hskip
  exact ⟨hitem', rfl⟩

variable [DecidableEq F] {readField : F → S → List Char → Except Failure (S × List Char)}

theorem endsValue_of_demandFieldMembers {fuel : Nat} {s rest : List Char}
    (h : demandFieldMembers fields readField seen state fuel false s = .ok (state', rest)) : EndsValue s := by
  cases fuel with
  | zero => cases h
  | succ fuel =>
      obtain ⟨next, hnext, -⟩ := exists_of_bind_eq_ok h
      exact endsValue_of_nextKey hnext

theorem demandFieldMembers_eq_ok_iff (hread : ReadsFields read put readField) {first : Bool} {row : List Char}
    (hrow : Members IsVerbatim first row members) {fuel : Nat} (hfuel : row.length < fuel)
    {rest rest' : List Char} :
    demandFieldMembers fields readField seen state fuel first (row ++ '}' :: rest) = .ok (state', rest') ↔
      Gathers fields read put seen state members state' ∧ rest' = rest := by
  -- by induction on the row: each member takes one unit of fuel and at least one character
  obtain ⟨fuel, rfl⟩ := Nat.exists_eq_succ_of_ne_zero (n := fuel) (by omega)
  induction hrow generalizing fuel seen state with
  | nil hgap =>
      rw [demandFieldMembers, bind_of_eq_ok (nextKey_close hgap _)]
      simp only [close_append hgap (show isBlank '}' = false by decide)]
      constructor
      · intro h
        cases h
        exact ⟨.nil, rfl⟩
      · rintro ⟨h, rfl⟩
        cases h
        rfl
  | @cons first lead body gap gap' item row key x members hlead hbody hgap hgap' hitem hrow ih =>
      obtain ⟨hjson, rfl⟩ := hitem
      have hends : EndsValue (row ++ '}' :: rest) := (hrow.derives And.left).endsValue_members
      simp only [List.length_append, List.length_cons] at hfuel
      obtain ⟨fuel, rfl⟩ := Nat.exists_eq_succ_of_ne_zero (n := fuel) (by omega)
      simp only [List.append_assoc, List.cons_append]
      rw [demandFieldMembers, bind_of_eq_ok (nextKey_lead hlead _)]
      simp only [bind_of_eq_ok (hbody.readString _), bind_of_eq_ok (readColon_append hgap _)]
      cases hkey : fields.lookup key with
      | none =>
          simp only [bind_of_eq_ok (hjson.skipValue hgap' hends)]
          rw [ih fuel (by omega), gathers_cons_iff_of_lookup_eq_none hkey]
      | some field =>
          rw [gathers_cons_iff_of_lookup_eq_some hkey]
          simp only
          split_ifs with hseen
          · -- a field that comes again
            constructor
            · intro h
              cases h
            · exact fun h => absurd hseen h.1.1
          · simp only [hread.readField_eq]
            constructor
            · intro h
              obtain ⟨⟨_, behind⟩, hput, hmore⟩ := exists_of_bind_eq_ok h
              obtain ⟨⟨x, after⟩, hvalue, hput⟩ := exists_of_bind_eq_ok hput
              cases hput
              -- that the value ends here is known only from how reading goes on
              obtain ⟨hreads, rfl⟩ := (hread.isLocal field).readsAs hgap' hjson hends
                (endsValue_of_demandFieldMembers hmore) hvalue
              obtain ⟨hgathers, hrest⟩ := (ih fuel (by omega)).1 hmore
              exact ⟨⟨hseen, x, hreads, hgathers⟩, hrest⟩
            · rintro ⟨⟨-, x, hreads, hgathers⟩, hrest⟩
              simp only [bind_of_eq_ok (hreads.read_append hgap' hends)]
              exact (ih fuel (by omega)).2 ⟨hgathers, hrest⟩

theorem exists_of_demandFieldMembers (hread : ReadsFields read put readField) {first : Bool} {fuel : Nat}
    {s rest : List Char}
    (h : demandFieldMembers fields readField seen state fuel first s = .ok (state', rest)) :
    ∃ row members, Members IsVerbatim first row members ∧ s = row ++ '}' :: rest := by
  induction fuel generalizing first s seen state with
  | zero => cases h
  | succ fuel ih =>
      rw [demandFieldMembers] at h
      obtain ⟨next, hnext, h⟩ := exists_of_bind_eq_ok h
      cases next with
      | none =>
          cases h
          obtain ⟨gap, hgap, hs⟩ := exists_of_nextKey_none hnext
          exact ⟨gap, [], .nil hgap, hs⟩
      | some after =>
          obtain ⟨⟨key, behind⟩, hkey, hmember⟩ := exists_of_bind_eq_ok h
          obtain ⟨lead, hlead, rfl⟩ := exists_of_nextKey_some hnext
          obtain ⟨body, hbody, rfl⟩ := readString_eq_ok_iff.1 hkey
          -- known or not, the value is JSON
          suffices hvalue : ∃ value gap item others, readColon behind = .ok value ∧ IsBlanks gap ∧
              Derives .value item ∧ value = gap ++ (item ++ others) ∧
              ∃ row members, Members IsVerbatim false row members ∧ others = row ++ '}' :: rest by
            obtain ⟨_, gap', item, _, hcolon, hgap', hitem, rfl, row, members, hrow, rfl⟩ := hvalue
            obtain ⟨gap, hgap, rfl⟩ := readColon_eq_ok_iff.1 hcolon
            exact ⟨_, _, .cons hlead hbody hgap hgap' ⟨hitem, rfl⟩ hrow, by simp⟩
          dsimp only at hmember
          split at hmember
          · obtain ⟨value, hcolon, hvalue⟩ := exists_of_bind_eq_ok hmember
            obtain ⟨others, hskip, hmore⟩ := exists_of_bind_eq_ok hvalue
            obtain ⟨gap, item, hgap, hitem, hs⟩ := exists_of_skipValue hskip
            exact ⟨value, gap, item, others, hcolon, hgap, hitem, hs, ih hmore⟩
          · rename_i field _
            split_ifs at hmember
            · cases hmember
            · obtain ⟨value, hcolon, hvalue⟩ := exists_of_bind_eq_ok hmember
              obtain ⟨⟨_, others⟩, hput, hmore⟩ := exists_of_bind_eq_ok hvalue
              rw [hread.readField_eq] at hput
              obtain ⟨⟨x, after⟩, hx, hput⟩ := exists_of_bind_eq_ok hput
              cases hput
              obtain ⟨gap, item, hgap, hitem, hs⟩ := hread.isLocal field hx
              exact ⟨value, gap, item, after, hcolon, hgap, hitem.isJson, hs, ih hmore⟩

/-! ## What is read from an object -/

section

variable {Content : F → Type} {read : Nat → ∀ field, List Char → Except Failure (Content field × List Char)}
  {put : S → ∀ field, Content field → S}
  {readField : Nat → F → S → List Char → Except Failure (S × List Char)} {depth : Nat} {name : String}

theorem demandStructure_eq_ok_iff (hdepth : 1 < depth)
    (hread : ReadsFields (read (depth - 1)) put (readField (depth - 1))) {before row : List Char}
    (hbefore : IsBlanks before) (hrow : Members IsVerbatim true row members) {rest rest' : List Char} :
    demandStructure name fields readField state depth (before ++ '{' :: (row ++ '}' :: rest)) =
        .ok (state', rest') ↔
      Gathers fields (read (depth - 1)) put [] state members state' ∧ rest' = rest := by
  rw [demandStructure, skipBlanks_append hbefore, skipBlanks_of_not_isBlank (by decide)]
  simp only [if_neg (show ¬ depth ≤ 1 by omega)]
  exact demandFieldMembers_eq_ok_iff hread hrow (lt_length_append_add_one _ _)

/-- What is read as a structure and opens with a brace is an object. -/
theorem exists_of_demandStructure (hread : ∀ depth, ReadsFields (read depth) put (readField depth))
    {s rest : List Char} (hs : (skipBlanks s).head? = some '{')
    (h : demandStructure name fields readField state depth s = .ok (state', rest)) :
    ∃ before row members, IsBlanks before ∧ Members IsVerbatim true row members ∧
      s = before ++ '{' :: (row ++ '}' :: rest) := by
  obtain ⟨after, hafter⟩ := List.head?_eq_some_iff.1 hs
  obtain ⟨before, rfl, hbefore⟩ := eq_append_of_skipBlanks hafter
  rw [demandStructure, hafter] at h
  split_ifs at h
  · cases h
  · obtain ⟨row, members, hrow, rfl⟩ := exists_of_demandFieldMembers (hread _) h
    exact ⟨before, row, members, hbefore, hrow, rfl⟩

end

end

end CodeBlock.Json
