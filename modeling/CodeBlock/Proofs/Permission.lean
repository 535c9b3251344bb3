import CodeBlock.Permission
import CodeBlock.Proofs.Text.Mark
import CodeBlock.Proofs.Text.Words

set_option autoImplicit false

/-! # Permissions that are written and read again

A permission is read from a text that is trimmed as a whole: the blanks around its commas stay in its values,
and values without a character are left out. So what is written as an option is read as the same permission
again, with one exception. A comma at the end of the text keeps the blanks before it, while the option has no
comma there, and its last value is trimmed. -/

namespace CodeBlock

/-! ## The end of a text -/

/-- Trimming leaves a text alone just if it does not end in a blank. -/
theorem Text.trimEnd_eq_self_iff {s : List Char} :
    trimEnd s = s ↔ ∀ c ∈ s.getLast?, isBlank c = false := by
  cases s using List.reverseRecOn with
  | nil => simp [trimEnd]
  | append_singleton s c =>
      cases hc : isBlank c with
      | true =>
          have hle : (s.reverse.dropWhile isBlank).length ≤ s.length := by
            simpa using (List.dropWhile_sublist isBlank (l := s.reverse)).length_le
          have hne : trimEnd (s ++ [c]) ≠ s ++ [c] := by
            intro h
            have hlength := congrArg List.length h
            simp [trimEnd, hc] at hlength
            omega
          simp [hne, hc]
      | false => simp [trimEnd, hc]

theorem Text.exists_last_cut {c : Char} {s : List Char} (h : c ∈ s) :
    ∃ before after, s = before ++ c :: after ∧ c ∉ after := by
  obtain ⟨after, before, hs, hafter⟩ := List.eq_append_cons_of_mem (List.mem_reverse.2 h)
  refine ⟨before.reverse, after.reverse, ?_, by simpa using hafter⟩
  have hreverse := congrArg List.reverse hs
  rw [List.reverse_reverse] at hreverse
  simpa using hreverse

theorem Text.trim_trim (s : List Char) : trim (trim s) = trim s :=
  calc trim (trimEnd (trimStart s))
    _ = trim (trimStart s) := trim_trimEnd (trimStart s)
    _ = trim s := trim_trimStart s

namespace Permission

/-! ## Values -/

def valuesOf (s : List Char) : List String :=
  ((Text.splitAll ',' s).filter fun v => !v.isEmpty).map String.ofList

theorem valuesOf_append_cons (s t : List Char) : valuesOf (s ++ ',' :: t) = valuesOf s ++ valuesOf t := by
  rw [valuesOf, Text.splitAll, List.splitOn_append_cons_self, List.filter_append, List.map_append]
  rfl

theorem valuesOf_nil : valuesOf [] = [] := rfl

/-- A text without commas is the only value that it lists. -/
theorem valuesOf_of_notMem {s : List Char} (h : ',' ∉ s) (hne : s ≠ []) : valuesOf s = [String.ofList s] := by
  have hsplit : Text.splitAll ',' s = [s] := List.splitOn_eq_singleton h
  simp [valuesOf, hsplit, hne]

/-- Whether a text can stand for itself in a list of values. -/
def IsValue (value : String) : Prop := value.toList ≠ [] ∧ ',' ∉ value.toList

theorem isValue_of_mem_valuesOf {s : List Char} {value : String} (h : value ∈ valuesOf s) : IsValue value := by
  obtain ⟨piece, hpiece, rfl⟩ := List.mem_map.1 h
  obtain ⟨hmem, hne⟩ := List.mem_filter.1 hpiece
  rw [IsValue, String.toList_ofList]
  exact ⟨by simpa using hne, fun hcomma => by
    simpa using Text.eq_false_of_mem_splitOnP hmem ',' hcomma⟩

/-- Values without the blanks at the end of the last one, and without that value if it is all blanks. -/
def trimLast : List String → List String
  | [] => []
  | [value] =>
      if Text.trimEnd value.toList = [] then [] else [String.ofList (Text.trimEnd value.toList)]
  | value :: next :: values => value :: trimLast (next :: values)

theorem valuesOf_trimEnd_intercalate {values : List String} (h : ∀ v ∈ values, IsValue v) :
    valuesOf (Text.trimEnd ([','].intercalate (values.map String.toList))) = trimLast values := by
  induction values with
  | nil => rfl
  | cons value values ih =>
      rw [List.forall_mem_cons] at h
      obtain ⟨⟨hne, hcomma⟩, hvalues⟩ := h
      cases values with
      | nil =>
          have htrimmed : ',' ∉ Text.trimEnd value.toList := fun hmem =>
            hcomma (List.mem_reverse.1 ((List.dropWhile_sublist _).subset (List.mem_reverse.1 hmem)))
          rw [List.map_singleton, List.intercalate_singleton, trimLast]
          split_ifs with hnil
          · rw [hnil, valuesOf_nil]
          · exact valuesOf_of_notMem htrimmed hnil
      | cons next values =>
          -- a comma is no blank, so trimming stops in the last value
          have hblank : Text.isBlank ',' = false := by decide
          rw [List.map_cons, List.map_cons, List.intercalate_cons_cons, List.append_assoc,
            List.singleton_append, Text.trimEnd_append_cons hblank, valuesOf_append_cons,
            valuesOf_of_notMem hcomma hne, String.ofList_toList, ← List.map_cons, ih hvalues, trimLast]
          rfl

def EndsUnblank (values : List String) : Prop :=
  ∀ value ∈ values.getLast?, ∀ c ∈ value.toList.getLast?, Text.isBlank c = false

theorem trimLast_eq_self_iff {values : List String} (h : ∀ v ∈ values, IsValue v) :
    trimLast values = values ↔ EndsUnblank values := by
  induction values with
  | nil => simp [trimLast, EndsUnblank]
  | cons value values ih =>
      rw [List.forall_mem_cons] at h
      cases values with
      | nil =>
          rw [trimLast, EndsUnblank, List.getLast?_singleton]
          simp only [Option.mem_some_iff, forall_eq']
          rw [← Text.trimEnd_eq_self_iff]
          split_ifs with hnil
          · rw [hnil]
            simpa using h.1.1
          · rw [List.cons.injEq, and_iff_left rfl, ← String.toList_inj, String.toList_ofList]
      | cons next values =>
          rw [trimLast, List.cons.injEq, and_iff_right rfl, ih h.2, EndsUnblank, EndsUnblank,
            List.getLast?_cons_cons]

/-- What is listed in a text that ends neither in a blank nor in a comma does not end in a blank. -/
theorem endsUnblank_valuesOf {s : List Char} (hs : Text.trimEnd s = s) (hlast : s.getLast? ≠ some ',') :
    EndsUnblank (valuesOf s) := by
  by_cases hcomma : ',' ∈ s
  · obtain ⟨before, after, rfl, hafter⟩ := Text.exists_last_cut hcomma
    have hne : after ≠ [] := by
      rintro rfl
      exact hlast (by simp)
    rw [Text.trimEnd_append_cons (by decide), List.append_cancel_left_eq, List.cons.injEq] at hs
    rw [valuesOf_append_cons, valuesOf_of_notMem hafter hne, EndsUnblank, List.getLast?_concat]
    simpa using Text.trimEnd_eq_self_iff.1 hs.2
  · by_cases hne : s = []
    · simp [hne, valuesOf_nil, EndsUnblank]
    · rw [valuesOf_of_notMem hcomma hne, EndsUnblank, List.getLast?_singleton]
      simpa using Text.trimEnd_eq_self_iff.1 hs

/-! ## Reading -/

/-- A whole capability is read from its name. -/
theorem ofString_eq_bare_iff {text name : String} :
    ofString text = .ok (.bare name) ↔
      Text.trim text.toList = name.toList ∧ name.toList ≠ [] ∧ '=' ∉ name.toList := by
  rw [ofString]
  constructor
  · intro h
    split at h
    · cases h
    · cases h
    · rename_i hcut
      split_ifs at h with hempty
      cases h
      rw [String.toList_ofList]
      exact ⟨rfl, by simpa using hempty, Text.splitOnce_eq_none_iff.1 hcut⟩
  · rintro ⟨htrim, hne, hequals⟩
    simp [htrim, Text.splitOnce_eq_none_iff.2 hequals, hne]

/-- A capability for some values is read from its name, the first `=`, and what lists the values. -/
theorem ofString_eq_limited_iff {text name : String} {values : List String} :
    ofString text = .ok (.limited name values) ↔
      ∃ listed, Text.trim text.toList = name.toList ++ '=' :: listed ∧ name.toList ≠ [] ∧
        '=' ∉ name.toList ∧ valuesOf listed = values := by
  rw [ofString]
  constructor
  · intro h
    split at h
    · cases h
    · rename_i before listed hne hcut
      cases h
      rw [String.toList_ofList]
      exact ⟨listed, Text.eq_of_splitOnce hcut, hne,
        Text.notMem_of_splitOnce hcut, rfl⟩
    · split_ifs at h
      cases h
  · rintro ⟨listed, htrim, hne, hequals, rfl⟩
    simp only [htrim, Text.splitOnce_append hequals]
    cases hname : name.toList with
    | nil => exact absurd hname hne
    | cons c rest => simp only [← hname, String.ofList_toList, valuesOf]

/-- The parts of a trimmed text on either side of its first `=` are trimmed at its ends. -/
theorem trimmed_parts {s name listed : List Char} (h : Text.trim s = name ++ '=' :: listed)
    (hequals : '=' ∉ name) : Text.trimStart name = name ∧ Text.trimEnd listed = listed := by
  have hagain := Text.trim_trim s
  rw [h, Text.trim_append_cons (by decide)] at hagain
  have hstart : '=' ∉ Text.trimStart name := fun hmem => hequals ((List.dropWhile_sublist _).subset hmem)
  have hcut := congrArg (Text.splitOnce '=') hagain
  rw [Text.splitOnce_append hstart, Text.splitOnce_append hequals, Option.some.injEq, Prod.mk.injEq] at hcut
  exact hcut

/-! ## Writing and reading again -/

def granted : Permission → String
  | bare name => name
  | limited name values => name ++ "=" ++ String.intercalate "," values

theorem flag_eq (p : Permission) : p.flag = "--allow-" ++ p.granted := by
  cases p with
  | bare name => rfl
  | limited name values => simp [flag, granted, String.append_assoc]

def values : Permission → List String
  | bare _ => []
  | limited _ values => values

/-- A permission without the blanks at the end of its last value. -/
def trimmed : Permission → Permission
  | bare name => bare name
  | limited name values => limited name (trimLast values)

/-- A permission that was read is read again from its option, but for blanks at the end of its last value. -/
theorem ofString_granted {text : String} {p : Permission} (h : ofString text = .ok p) :
    ofString p.granted = .ok p.trimmed := by
  cases p with
  | bare name =>
      obtain ⟨htrim, hname⟩ := ofString_eq_bare_iff.1 h
      rw [granted, trimmed, ofString_eq_bare_iff, ← htrim, Text.trim_trim, htrim]
      exact ⟨rfl, hname⟩
  | limited name values =>
      obtain ⟨listed, htrim, hne, hequals, rfl⟩ := ofString_eq_limited_iff.1 h
      obtain ⟨hstart, -⟩ := trimmed_parts htrim hequals
      have hwritten : (granted (limited name (valuesOf listed))).toList =
          name.toList ++ '=' :: [','].intercalate ((valuesOf listed).map String.toList) := by
        simp [granted, String.toList_intercalate]
      refine ofString_eq_limited_iff.2 ⟨_, ?_, hne, hequals, valuesOf_trimEnd_intercalate ?_⟩
      · rw [hwritten, Text.trim_append_cons (by decide), hstart]
      · exact fun v hv => isValue_of_mem_valuesOf hv

/-- The option of a permission that was read is `--allow-` and a text from which the permission is read again,
    but for blanks at the end of its last value: it is the same one just if there are none. There are none
    unless the text that it was first read from ends in a comma. -/
theorem ofString_flag {text : String} {p : Permission} (h : ofString text = .ok p) :
    ∃ written : String, p.flag = "--allow-" ++ written ∧ ofString written = .ok p.trimmed ∧
      (ofString written = .ok p ↔ EndsUnblank p.values) ∧
      ((Text.trim text.toList).getLast? ≠ some ',' → ofString written = .ok p) := by
  have hread := ofString_granted h
  have hself : p.trimmed = p ↔ EndsUnblank p.values := by
    cases p with
    | bare name => simp [trimmed, values, EndsUnblank]
    | limited name values =>
        obtain ⟨listed, -, -, -, rfl⟩ := ofString_eq_limited_iff.1 h
        rw [trimmed, limited.injEq, and_iff_right rfl]
        exact trimLast_eq_self_iff fun v hv => isValue_of_mem_valuesOf hv
  have hiff : ofString p.granted = .ok p ↔ EndsUnblank p.values := by
    rw [hread, Except.ok.injEq, hself]
  refine ⟨p.granted, p.flag_eq, hread, hiff, fun hlast => hiff.2 ?_⟩
  cases p with
  | bare name => simp [values, EndsUnblank]
  | limited name values =>
      obtain ⟨listed, htrim, -, hequals, rfl⟩ := ofString_eq_limited_iff.1 h
      obtain ⟨-, hend⟩ := trimmed_parts htrim hequals
      -- the last value goes up to the end of the trimmed text, but for a comma there
      refine endsUnblank_valuesOf hend fun hcomma => hlast ?_
      rw [htrim]
      simp [List.getLast?_append, List.getLast?_cons, hcomma]

/-- Blanks inside a text, empty values and a later `=` are kept or left out both times; the blanks before a
    comma at the end are not. -/
theorem ofString_flag_paths :
    (ofString " read=,/tmp,, /a=b " = .ok (limited "read" ["/tmp", " /a=b"]) ∧
      ∃ written : String, (limited "read" ["/tmp", " /a=b"]).flag = "--allow-" ++ written ∧
        ofString written = .ok (limited "read" ["/tmp", " /a=b"])) ∧
    ofString "read=/tmp ," = .ok (limited "read" ["/tmp "]) ∧
      ∃ written : String, (limited "read" ["/tmp "]).flag = "--allow-" ++ written ∧
        ofString written ≠ .ok (limited "read" ["/tmp "]) := by
  have hinside : ofString " read=,/tmp,, /a=b " = .ok (limited "read" ["/tmp", " /a=b"]) := by rfl
  have hcomma : ofString "read=/tmp ," = .ok (limited "read" ["/tmp "]) := by rfl
  refine ⟨⟨hinside, ?_⟩, hcomma, ?_⟩
  · obtain ⟨written, hflag, -, -, hself⟩ := ofString_flag hinside
    exact ⟨written, hflag, hself (by decide)⟩
  · obtain ⟨written, hflag, -, hself, -⟩ := ofString_flag hcomma
    refine ⟨written, hflag, fun h => ?_⟩
    exact absurd (hself.1 h "/tmp " rfl ' ' rfl) (by decide)

/-- A permission that was read need not be the one that is read from its option. -/
theorem not_ofString_flag :
    ¬∀ (text : String) (p : Permission), ofString text = .ok p →
      ∃ written : String, p.flag = "--allow-" ++ written ∧ ofString written = .ok p := by
  intro h
  have hread : ofString "read=/tmp ," = .ok (limited "read" ["/tmp "]) := by rfl
  obtain ⟨written, hflag, hsame⟩ := h _ _ hread
  have hwritten : written = "read=/tmp " := by
    rw [flag_eq, String.append_right_inj] at hflag
    exact hflag.symm
  have hother : ofString "read=/tmp " = .ok (limited "read" ["/tmp"]) := by rfl
  rw [hwritten, hother] at hsame
  exact absurd hsame (by decide)

end Permission

end CodeBlock
