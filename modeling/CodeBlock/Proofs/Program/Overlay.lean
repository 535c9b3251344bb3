import CodeBlock.Execution
import CodeBlock.Program.Overlay
import CodeBlock.Proofs.Parameters.Mentions
import CodeBlock.Proofs.Script.Layout
import CodeBlock.Proofs.Text.Classes
import Mathlib.Data.List.Forall2

set_option autoImplicit false

/-! # Options laid over a file

The parameters of a run are what the parameters file says with what the options say laid over it. Whether
there are any depends on the file and on the form of each option alone. An option that replaces a parameter
replaces it; permissions are added behind those of the file; field names replace those of the same variable;
and variables are one table of all that is mentioned, in the file first and then by the options, so that a
variable keeps its place when its value is replaced, and is declared once. -/

namespace CodeBlock

/-! ## Texts that are read one by one -/

theorem mapM_eq_ok_iff {ε α β : Type} {read : α → Except ε β} {IsRead : α → β → Prop}
    (hread : ∀ a b, read a = .ok b ↔ IsRead a b) {as : List α} {bs : List β} :
    as.mapM read = .ok bs ↔ List.Forall₂ IsRead as bs := by
  induction as generalizing bs with
  | nil =>
      rw [List.forall₂_nil_left_iff, List.mapM_nil]
      exact ⟨fun h => by cases h; rfl, fun h => by rw [h]; rfl⟩
  | cons a as ih =>
      rw [List.mapM_cons, List.forall₂_cons_left_iff]
      constructor
      · intro h
        obtain ⟨b, hb, h⟩ := exists_of_bind_eq_ok h
        obtain ⟨bs, hbs, h⟩ := exists_of_bind_eq_ok h
        cases h
        exact ⟨b, bs, (hread a b).1 hb, ih.1 hbs, rfl⟩
      · rintro ⟨b, bs, hb, hbs, rfl⟩
        rw [(hread a b).2 hb, ih.2 hbs]
        rfl

/-- There are readings of all elements if there is one of each. -/
theorem exists_forall₂_iff {α β : Type} {IsRead : α → β → Prop} {as : List α} :
    (∃ bs, List.Forall₂ IsRead as bs) ↔ ∀ a ∈ as, ∃ b, IsRead a b := by
  induction as with
  | nil => simp
  | cons a as ih =>
      rw [List.forall_mem_cons, ← ih]
      constructor
      · rintro ⟨_, h⟩
        obtain ⟨b, bs, hb, hbs, rfl⟩ := List.forall₂_cons_left_iff.1 h
        exact ⟨⟨b, hb⟩, bs, hbs⟩
      · rintro ⟨⟨b, hb⟩, bs, hbs⟩
        exact ⟨b :: bs, .cons hb hbs⟩

/-! ## Declarations in a script -/

theorem Script.exists_textBy_eq_declarations (read : List Char → List Snippet.Tree) (s : Script) :
    ∃ before after, s.textBy read = before ++ s.declarations.flatMap onLines ++ after := by
  obtain ⟨after, htext⟩ := s.exists_textBy_eq_opening read
  refine ⟨s.importPieces.flatMap onLines ++ ['\n'], s.prologue.toList.flatMap onLines ++
    (if s.wrapped then wrapperHead else []) ++ s.bodyPiece read ++ after, ?_⟩
  rw [htext, opening, head_eq_flatMap]
  simp only [List.append_assoc]

theorem exists_expandBy_eq {read : List Char → List Snippet.Tree} {p : Parameters} {snippet : String}
    {settings : Settings} {script : String} (h : expandBy read p snippet settings = .ok script) :
    ∃ keyword before after, script.toList =
      before ++ (p.bindings.flatMap fun b => Script.onLines (b.declaration keyword).toList) ++ after := by
  obtain ⟨_, -, h⟩ := exists_of_bind_eq_ok h
  obtain ⟨keyword, -, h⟩ := exists_of_bind_eq_ok h
  cases h
  obtain ⟨before, after, htext⟩ := (scriptBy read p keyword snippet.toList).exists_textBy_eq_declarations read
  refine ⟨keyword, before, after, ?_⟩
  rw [String.toList_ofList, htext, scriptBy, List.flatMap_map]

namespace Options

/-! ## The forms of options -/

/-- Whether a text has the form `NAME=VALUE`, and what variable it mentions: the name is not blank, and the
    value is JSON, or else a text. -/
def IsVariable (text : String) (mention : String × Json) : Prop :=
  ∃ name raw, text.toList = name ++ '=' :: raw ∧ '=' ∉ name ∧ (∃ c ∈ name, Text.isBlank c = false) ∧
    mention.1 = String.ofList (Text.trim name) ∧
    mention.2 = (Json.ofText raw).toOption.getD (.string (String.ofList raw))

/-- Whether a text has the form `NAME=A,B`, and which field names it gives to which variable. -/
def IsColumns (text : String) (column : String × List String) : Prop :=
  ∃ name fields, text.toList = name ++ '=' :: fields ∧ '=' ∉ name ∧
    column = (String.ofList (Text.trim name),
      (Text.splitAll ',' fields).map fun field => String.ofList (Text.trim field))

theorem readVariable_of_append {text : String} {name raw : List Char}
    (htext : text.toList = name ++ '=' :: raw) (hname : '=' ∉ name)
    (hpresent : ∃ c ∈ name, Text.isBlank c = false) :
    readVariable text =
      .ok (String.ofList (Text.trim name), (Json.ofText raw).toOption.getD (.string (String.ofList raw))) := by
  have htrim : (Text.trim name).isEmpty = false := by
    rw [List.isEmpty_eq_false_iff, ne_eq, Text.trim_eq_nil_iff]
    simpa using hpresent
  rw [readVariable, htext, Text.splitOnce_append hname]
  simp only [htrim]
  cases Json.ofText raw <;> rfl

theorem readVariable_eq_ok_iff (text : String) (mention : String × Json) :
    readVariable text = .ok mention ↔ IsVariable text mention := by
  constructor
  · intro h
    cases hsplit : Text.splitOnce '=' text.toList with
    | none =>
        rw [readVariable, hsplit] at h
        cases h
    | some parts =>
        obtain ⟨name, raw⟩ := parts
        have htext := Text.eq_of_splitOnce hsplit
        have hname := Text.notMem_of_splitOnce hsplit
        by_cases hpresent : ∃ c ∈ name, Text.isBlank c = false
        · rw [readVariable_of_append htext hname hpresent] at h
          cases h
          exact ⟨name, raw, htext, hname, hpresent, rfl, rfl⟩
        · -- of a name of blanks nothing is left
          have htrim : (Text.trim name).isEmpty = true := by
            rw [List.isEmpty_iff, Text.trim_eq_nil_iff]
            simpa using hpresent
          rw [readVariable, hsplit] at h
          simp only [htrim] at h
          cases h
  · rintro ⟨name, raw, htext, hname, hpresent, hfst, hsnd⟩
    rw [readVariable_of_append htext hname hpresent, ← hfst, ← hsnd]

theorem readColumns_eq_ok_iff (text : String) (column : String × List String) :
    readColumns text = .ok column ↔ IsColumns text column := by
  unfold readColumns
  constructor
  · intro h
    split at h
    · cases h
    · rename_i name fields hsplit
      cases h
      exact ⟨name, fields, Text.eq_of_splitOnce hsplit, Text.notMem_of_splitOnce hsplit, rfl⟩
  · rintro ⟨name, fields, htext, hname, hcolumn⟩
    rw [htext, Text.splitOnce_append hname, hcolumn]

/-- A text gives field names if there is an equals sign in it. -/
theorem exists_isColumns_iff {text : String} : (∃ column, IsColumns text column) ↔ '=' ∈ text.toList := by
  constructor
  · rintro ⟨_, name, fields, htext, -, -⟩
    simp [htext]
  · intro h
    cases hsplit : Text.splitOnce '=' text.toList with
    | none => exact absurd h (Text.splitOnce_eq_none_iff.1 hsplit)
    | some parts => exact ⟨_, _, _, Text.eq_of_splitOnce hsplit, Text.notMem_of_splitOnce hsplit, rfl⟩

/-! ## What is laid over what -/

/-- Whether parameters are what options give that are laid over others; `mentions` are the variables that
    are mentioned from the first to the last, and `columns` the field names that the options give. -/
structure LaidOver (o : Options) (p : Parameters) (mentions : List (String × Json))
    (columns : List (String × List String)) (q : Parameters) : Prop where
  command : q.command = o.command.or p.command
  resultKind : q.resultKind = o.resultKind.getD p.resultKind
  keyword : q.keyword = o.keyword.or p.keyword
  prologue : q.prologue = o.prologue.or p.prologue
  epilogue : q.epilogue = o.epilogue.or p.epilogue
  session : q.session = p.session
  permissions : q.permissions = p.permissions ++ o.permissions
  columnNames : ∀ name,
    Table.get? name q.columnNames = (Table.last? name columns).or (Table.get? name p.columnNames)
  /-- The variables stand in the order in which they are mentioned first, -/
  names : q.vars.map Prod.fst = (mentions.map Prod.fst).eraseDups
  /-- and each has the value that is mentioned last. -/
  values : ∀ name, Table.get? name q.vars = Table.last? name mentions
  once : (q.vars.map Prod.fst).Nodup

/-- Whether options can be laid over parameters depends on their forms alone. -/
theorem exists_overlay_iff {o : Options} {p : Parameters} :
    (∃ q, o.overlay p = .ok q) ↔
      (∀ text ∈ o.vars, ∃ mention, IsVariable text mention) ∧ ∀ text ∈ o.columnNames, '=' ∈ text.toList := by
  have hforms : (∀ text ∈ o.columnNames, '=' ∈ text.toList) ↔
      ∀ text ∈ o.columnNames, ∃ column, IsColumns text column := by
    simp only [exists_isColumns_iff]
  rw [hforms, ← exists_forall₂_iff, ← exists_forall₂_iff]
  constructor
  · rintro ⟨q, h⟩
    obtain ⟨vars, hvars, h⟩ := exists_of_bind_eq_ok h
    obtain ⟨columns, hcolumns, -⟩ := exists_of_bind_eq_ok h
    exact ⟨⟨vars, (mapM_eq_ok_iff readVariable_eq_ok_iff).1 hvars⟩, columns,
      (mapM_eq_ok_iff readColumns_eq_ok_iff).1 hcolumns⟩
  · rintro ⟨⟨vars, hvars⟩, columns, hcolumns⟩
    rw [overlay, (mapM_eq_ok_iff readVariable_eq_ok_iff).2 hvars,
      (mapM_eq_ok_iff readColumns_eq_ok_iff).2 hcolumns]
    exact ⟨_, rfl⟩

theorem exists_laidOver {o : Options} {p q : Parameters} {mentions : List (String × Json)}
    (hvars : p.vars = Table.ofEntries mentions) (h : o.overlay p = .ok q) :
    ∃ vars columns, List.Forall₂ IsVariable o.vars vars ∧ List.Forall₂ IsColumns o.columnNames columns ∧
      o.LaidOver p (mentions ++ vars) columns q := by
  obtain ⟨vars, hread, h⟩ := exists_of_bind_eq_ok h
  obtain ⟨columns, hcolumns, h⟩ := exists_of_bind_eq_ok h
  -- the mentions of the file come first, so a later one wins over them
  have htable : q.vars = Table.ofEntries (mentions ++ vars) := by
    rw [Table.ofEntries_append, ← hvars]
    cases h
    rfl
  cases h
  refine ⟨vars, columns, (mapM_eq_ok_iff readVariable_eq_ok_iff).1 hread,
    (mapM_eq_ok_iff readColumns_eq_ok_iff).1 hcolumns, ?_⟩
  exact {
    command := rfl
    resultKind := rfl
    keyword := rfl
    prologue := rfl
    epilogue := rfl
    session := rfl
    permissions := rfl
    columnNames := fun name => Table.get?_foldl_put name columns p.columnNames
    names := by rw [htable, Table.map_fst_ofEntries]
    values := fun name => by rw [htable, Table.get?_ofEntries]
    once := by
      rw [htable]
      exact Table.isDistinct_ofEntries (mentions ++ vars) }

/-! ## What is laid under -/

/-- What options are laid over: what the parameters file says and the variables that it mentions, or nothing
    if there is no such file. -/
def StartsFrom (o : Options) (files : Files) (p : Parameters) (mentions : List (String × Json)) : Prop :=
  match o.parametersFile with
  | some path => ∃ text, files.readText path = .ok text ∧ Parameters.ofString text = .ok p ∧
      Parameters.mentions text = .ok mentions
  | .none => p = Parameters.none ∧ mentions = []

theorem parametersOfFile_eq_ok_iff {files : Files} {path : String} {p : Parameters} :
    parametersOfFile files path = .ok p ↔
      ∃ text, files.readText path = .ok text ∧ Parameters.ofString text = .ok p := by
  unfold parametersOfFile
  cases files.readText path with
  | error e => simp
  | ok text => cases hread : Parameters.ofString text <;> simp [hread]

/-- Parameters are there if those that the options are laid over are, and the options can be laid over them. -/
theorem parameters_eq_ok_iff {o : Options} {files : Files} {q : Parameters} :
    o.parameters files = .ok q ↔ ∃ p mentions, o.StartsFrom files p mentions ∧ o.overlay p = .ok q := by
  unfold parameters StartsFrom
  cases o.parametersFile with
  | none =>
      constructor
      · exact fun h => ⟨Parameters.none, [], ⟨rfl, rfl⟩, h⟩
      · rintro ⟨_, _, ⟨rfl, rfl⟩, h⟩
        exact h
  | some path =>
      constructor
      · intro h
        obtain ⟨p, hp, h⟩ := exists_of_bind_eq_ok h
        obtain ⟨text, htext, hread⟩ := parametersOfFile_eq_ok_iff.1 hp
        obtain ⟨mentions, hmentions, -⟩ := Parameters.exists_mentions hread
        exact ⟨p, mentions, ⟨text, htext, hread, hmentions⟩, h⟩
      · rintro ⟨p, _, ⟨text, htext, hread, -⟩, h⟩
        have hp : parametersOfFile files path = .ok p := parametersOfFile_eq_ok_iff.2 ⟨text, htext, hread⟩
        simp only [hp]
        exact h

/-- The variables that options are laid over are the table of those that are mentioned. -/
theorem StartsFrom.vars_eq {o : Options} {files : Files} {p : Parameters} {mentions : List (String × Json)}
    (h : o.StartsFrom files p mentions) : p.vars = Table.ofEntries mentions := by
  unfold StartsFrom at h
  split at h
  · obtain ⟨text, -, hread, hmentions⟩ := h
    obtain ⟨mentioned, hmentioned, hvars⟩ := Parameters.exists_mentions hread
    rw [hmentioned] at hmentions
    cases hmentions
    exact hvars
  · obtain ⟨rfl, rfl⟩ := h
    rfl

theorem exists_startsFrom_iff {o : Options} {files : Files} :
    (∃ p mentions, o.StartsFrom files p mentions) ↔
      ∀ path, o.parametersFile = some path →
        ∃ text p, files.readText path = .ok text ∧ Parameters.ofString text = .ok p := by
  unfold StartsFrom
  cases o.parametersFile with
  | none => simp
  | some path =>
      constructor
      · rintro ⟨p, _, text, htext, hread, -⟩ _ ⟨⟩
        exact ⟨text, p, htext, hread⟩
      · intro h
        obtain ⟨text, p, htext, hread⟩ := h path rfl
        obtain ⟨mentions, hmentions, -⟩ := Parameters.exists_mentions hread
        exact ⟨p, mentions, text, htext, hread, hmentions⟩

/-- The parameters of a run have each variable once. -/
theorem isDistinct_vars_parameters {o : Options} {files : Files} {q : Parameters}
    (h : o.parameters files = .ok q) : Table.IsDistinct q.vars := by
  obtain ⟨p, mentions, hstart, hoverlay⟩ := parameters_eq_ok_iff.1 h
  obtain ⟨_, _, -, -, hlaid⟩ := exists_laidOver hstart.vars_eq hoverlay
  exact hlaid.once

/-- There are parameters if the file is readable and denotes some, each variable has a name, and each text
    for field names has an equals sign; they are the options laid over the file, and the script of a block
    declares what the file and the options mention, each name once. -/
theorem parameters_laidOver (o : Options) (files : Files) :
    ((∃ q, o.parameters files = .ok q) ↔
      (∀ path, o.parametersFile = some path →
        ∃ text p, files.readText path = .ok text ∧ Parameters.ofString text = .ok p) ∧
      (∀ text ∈ o.vars, ∃ mention, IsVariable text mention) ∧
      ∀ text ∈ o.columnNames, '=' ∈ text.toList) ∧
    ∀ q, o.parameters files = .ok q →
      (∃ p mentions vars columns, o.StartsFrom files p mentions ∧ List.Forall₂ IsVariable o.vars vars ∧
        List.Forall₂ IsColumns o.columnNames columns ∧ o.LaidOver p (mentions ++ vars) columns q) ∧
      (q.bindings.map Binding.name).Nodup ∧
      ∀ read snippet settings script, expandBy read q snippet settings = .ok script →
        ∃ keyword before after, script.toList =
          before ++ (q.bindings.flatMap fun b => Script.onLines (b.declaration keyword).toList) ++ after := by
  refine ⟨?_, fun q hq => ⟨?_, ?_, fun read snippet settings script => exists_expandBy_eq⟩⟩
  · rw [← exists_startsFrom_iff]
    constructor
    · rintro ⟨q, hq⟩
      obtain ⟨p, mentions, hstart, hoverlay⟩ := parameters_eq_ok_iff.1 hq
      exact ⟨⟨p, mentions, hstart⟩, exists_overlay_iff.1 ⟨q, hoverlay⟩⟩
    · rintro ⟨⟨p, mentions, hstart⟩, hforms⟩
      obtain ⟨q, hoverlay⟩ := exists_overlay_iff.2 hforms
      exact ⟨q, parameters_eq_ok_iff.2 ⟨p, mentions, hstart, hoverlay⟩⟩
  · obtain ⟨p, mentions, hstart, hoverlay⟩ := parameters_eq_ok_iff.1 hq
    obtain ⟨vars, columns, hvars, hcolumns, hlaid⟩ := exists_laidOver hstart.vars_eq hoverlay
    exact ⟨p, mentions, vars, columns, hstart, hvars, hcolumns, hlaid⟩
  · rw [Parameters.map_name_bindings]
    exact isDistinct_vars_parameters hq

/-- A variable that the file mentions twice and an option once more, and one that an option adds. -/
theorem parameters_laidOver_repeated :
    let o : Options := { none with
      parametersFile := some "p.json"
      vars := ["y = [1]", "x=new"]
      columnNames := ["y=a, b"]
      command := some "node" }
    let files : Files := ⟨[(["p.json"], Text.toBytes
      "\x7b\"var\": \x7b\"x\": 1, \"z\": 2, \"x\": 3\x7d, \"cmd\": \"deno\"\x7d".toList)], [], []⟩
    ∃ q, o.parameters files = .ok q ∧ (q.bindings.map Binding.name).Nodup ∧
      (q.vars.map fun (name, value) => (name, value.compact)) = [("x", "\"new\""), ("z", "2"), ("y", "[1]")] ∧
      q.columnNames = [("y", ["a", "b"])] ∧ q.command = some "node" := by
  intro o files
  have hzero : "p.json".contains '\x00' = false := by simp
  have hread : ((o.parameters files).toOption.map fun q =>
      (q.vars.map fun (name, value) => (name, value.compact), q.columnNames, q.command)) =
        some ([("x", "\"new\""), ("z", "2"), ("y", "[1]")], [("y", ["a", "b"])], some "node") := by
    simp only [o, files, Options.parameters, parametersOfFile, Files.readText, Files.read, Files.locate, hzero]
    decide +kernel
  cases hq : o.parameters files with
  | error trouble =>
      rw [hq] at hread
      cases hread
  | ok q =>
      simp only [hq, Except.toOption, Option.map_some, Option.some.injEq, Prod.mk.injEq] at hread
      obtain ⟨hvars, hcolumns, hcommand⟩ := hread
      exact ⟨q, rfl, ((parameters_laidOver o files).2 q hq).2.1, hvars, hcolumns, hcommand⟩

end Options

end CodeBlock
