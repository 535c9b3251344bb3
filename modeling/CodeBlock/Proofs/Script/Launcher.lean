import CodeBlock.Execution
import CodeBlock.Json.Failure
import CodeBlock.Proofs.Script.Layout
import CodeBlock.Proofs.Snippet.Returning
import CodeBlock.Proofs.Value.Mark

set_option autoImplicit false

/-! # Launchers in scripts

The line that says what runs a snippet as a file means something at the very start of a text and nowhere
else. A snippet with imports loses it, as it loses the comments before its last import. A snippet without
imports is a body as it stands, and no body is at the start of a script: at least an empty line is before
it. So the line reaches the script exactly if nothing is imported, and then at a place where it breaks the
rules of the language (`expandBy_launcher`). Which nodes a snippet has is left to a reader. -/

namespace CodeBlock

open Text (Unmarked unmarked_of_notMem OnOwnLines)

/-! ## The pieces of a snippet with a launcher -/

namespace Snippet

/-- A launcher stays at the start of what gives back the last expression. -/
theorem exists_returningText_launcher (line : List Char) (pieces : List Piece) :
    ∃ rest, returningText (.launcher line :: pieces) = line ++ rest := by
  unfold returningText
  split
  · rename_i before code rest after hlast
    obtain ⟨hpieces, htrivial⟩ := append_of_lastStatement? hlast
    cases before with
    | nil =>
        rw [List.nil_append, List.cons.injEq] at hpieces
        cases hpieces.1
    | cons first before =>
        rw [List.cons_append, List.cons.injEq] at hpieces
        rw [← hpieces.1, textOf, List.flatMap_cons]
        simp only [List.append_assoc]
        exact ⟨_, rfl⟩
  · exact ⟨textOf pieces, rfl⟩

/-- Giving back the last expression makes no mark. -/
theorem unmarked_returningText {pieces : List Piece} (h : Unmarked (textOf pieces)) :
    Unmarked (returningText pieces) := by
  unfold returningText
  split
  · rename_i before code rest after hlast
    obtain ⟨rfl, -⟩ := append_of_lastStatement? hlast
    have htext : textOf (before ++ .expression code rest :: after) =
        textOf before ++ (code ++ (rest ++ textOf after)) := by
      simp [textOf, Piece.text]
    rw [htext] at h
    -- what is put in begins with a letter or a bracket and ends in a bracket or a semicolon
    have hbefore := h.of_infix (List.prefix_append _ _).isInfix
    have hcode : Unmarked code := h.of_infix ⟨textOf before, rest ++ textOf after, by simp⟩
    have hafter : Unmarked (withoutSemicolon rest ++ textOf after) := by
      obtain ⟨front, hfront⟩ := (losesSemicolon_withoutSemicolon rest).suffix
      refine h.of_infix ⟨textOf before ++ (code ++ front), [], ?_⟩
      rw [List.append_nil, List.append_assoc, List.append_assoc, ← List.append_assoc front, hfront]
    have hclose := (unmarked_of_notMem (s := ");".toList) (by decide)).append hafter
      fun hlast => absurd hlast (by decide)
    have hvalue := hcode.append hclose fun _ => by simp
    have hopen := (unmarked_of_notMem (s := "return (".toList) (by decide)).append hvalue
      fun hlast => absurd hlast (by decide)
    have hall := hbefore.append hopen fun _ => by simp
    simpa only [List.append_assoc] using hall
  · exact h

/-! ## The parts of a snippet with a launcher -/

theorem infix_textOf_of_mem {pieces : List Piece} {piece : Piece} (h : piece ∈ pieces) :
    piece.text <:+: textOf pieces := by
  rw [textOf, List.flatMap_def]
  exact List.infix_of_mem_flatten (List.mem_map_of_mem h)

/-- With an import there is something up to the last one. -/
theorem atLastImport_ne_nil {pieces : List Piece} (h : ∃ piece ∈ pieces, piece.isImport = true) :
    (atLastImport pieces).1 ≠ [] := by
  obtain ⟨piece, hmem, himport⟩ := h
  unfold atLastImport
  simp only
  split
  · rename_i hempty
    rw [List.isEmpty_iff, List.reverse_eq_nil_iff, List.dropWhile_eq_nil_iff] at hempty
    have hnone := hempty piece (List.mem_reverse.2 hmem)
    rw [himport] at hnone
    exact absurd hnone (by simp)
  · rename_i hempty
    rw [List.isEmpty_iff] at hempty
    exact List.append_ne_nil_of_left_ne_nil hempty _

theorem unmarked_partsOf (line : List Char) {pieces : List Piece}
    (himport : ∃ piece ∈ pieces, piece.isImport = true) (h : Unmarked (textOf pieces)) :
    Unmarked (partsOf (.launcher line :: pieces)).imports ∧
      Unmarked (partsOf (.launcher line :: pieces)).body := by
  have happend := atLastImport_append (.launcher line :: pieces)
  have hne : (atLastImport (.launcher line :: pieces)).1 ≠ [] :=
    atLastImport_ne_nil (by simpa using .inr himport)
  unfold partsOf
  generalize atLastImport (.launcher line :: pieces) = cut at happend hne ⊢
  obtain ⟨upTo, after⟩ := cut
  obtain ⟨first, upTo, rfl⟩ := List.exists_cons_of_ne_nil hne
  rw [List.cons_append, List.cons.injEq] at happend
  obtain ⟨rfl, rfl⟩ := happend
  -- the launcher is the first piece up to the last import, and neither an import nor a statement
  have hfilter : ∀ {f : Piece → Bool}, f (.launcher line) = false →
      ∀ piece ∈ (Piece.launcher line :: upTo).filter f, Unmarked piece.text := by
    intro f hf piece hpiece
    rw [List.filter_cons_of_neg (by simp [hf])] at hpiece
    exact h.of_infix (infix_textOf_of_mem (List.mem_append_left _ (List.mem_filter.1 hpiece).1))
  have hafter : Unmarked (textOf after) := by
    rw [textOf, List.flatMap_append] at h
    exact h.of_infix (List.suffix_append _ _).isInfix
  constructor
  · refine Text.unmarked_intercalate fun text htext => ?_
    obtain ⟨piece, hpiece, rfl⟩ := List.mem_map.1 htext
    exact hfilter rfl piece hpiece
  · exact Text.unmarked_flatMap_lines (hfilter rfl) hafter

end Snippet

/-! ## The script -/

theorem Text.OnOwnLines.unmarked {pieces : List (List Char)} {s : List Char} (h : OnOwnLines pieces s)
    (hpieces : ∀ piece ∈ pieces, Unmarked piece) : Unmarked s := by
  have hlineEnds : ∀ n, Unmarked (List.replicate n '\n') := fun n =>
    unmarked_of_notMem fun hmem => absurd (List.eq_of_mem_replicate hmem) (by decide)
  have hseam : ∀ n, (List.replicate n '\n').head? ≠ some '!' := fun n => by
    cases n <;> simp [List.replicate_succ]
  induction h with
  | nil lineEnds => exact hlineEnds lineEnds
  | first piece lineEnds =>
      rw [List.forall_mem_singleton] at hpieces
      exact hpieces.append (hlineEnds lineEnds) fun _ => hseam lineEnds
  | @snoc pieces before piece lineEnds _ hends ih =>
      rw [List.forall_mem_append, List.forall_mem_singleton] at hpieces
      refine ((ih hpieces.1).append hpieces.2 fun hlast => ?_).append (hlineEnds lineEnds) fun _ =>
        hseam lineEnds
      rw [hends] at hlast
      exact absurd hlast (by decide)

/-- The texts of a block that its script takes in: the names of its variables, the texts in their values,
    the prologue and the epilogue. -/
def Parameters.texts (p : Parameters) : List (List Char) :=
  p.vars.flatMap (fun var => var.1.toList :: (Value.ofJson var.2).texts) ++
    (p.prologue.toList ++ p.epilogue.toList).map String.toList

theorem Binding.unmarked_declaration {name : String} {value : Value} (hname : Unmarked name.toList)
    (hvalue : ∀ t ∈ value.texts, Unmarked t) (keyword : Keyword) (fieldNames : List String) :
    Unmarked ((Binding.of name value fieldNames).declaration keyword).toList := by
  have hliteral := Value.unmarked_literalText _
    (Value.unmarked_shaped fieldNames (!fieldNames.isEmpty) value hvalue)
  have hend := hliteral.append_cons (c := ';') (by decide) (unmarked_of_notMem (s := [';']) (by decide))
  have hequals := ((hend.cons (c := ' ') (by decide)).cons (c := '=') (by decide)).cons (c := ' ')
    (by decide)
  have hword : '#' ∉ keyword.word.toList := by cases keyword <;> decide
  have hall := (unmarked_of_notMem hword).append_cons (c := ' ') (by decide)
    ((hname.append_cons (by decide) hequals).cons (by decide))
  simpa [Binding.declaration, Binding.of, Value.literal] using hall

namespace Script

theorem exists_bodyPiece_eq {read : List Char → List Snippet.Tree} {s : Script} {line : List Char}
    {pieces : List Snippet.Piece} (h : Snippet.outlineBy read s.body = .launcher line :: pieces) :
    ∃ rest, s.bodyPiece read = line ++ rest := by
  unfold bodyPiece
  split
  · rw [Snippet.returningBy, h]
    exact Snippet.exists_returningText_launcher line pieces
  · have htext : Snippet.textOf (Snippet.outlineBy read s.body) = s.body := Snippet.textOf_outlineBy _ _
    rw [h, Snippet.textOf, List.flatMap_cons] at htext
    exact ⟨Snippet.textOf pieces, htext.symm⟩

theorem exists_textBy_eq {read : List Char → List Snippet.Tree} {s : Script} {line : List Char}
    {pieces : List Snippet.Piece} (h : Snippet.outlineBy read s.body = .launcher line :: pieces) :
    ∃ before after, before ≠ [] ∧ s.textBy read = before ++ line ++ after := by
  obtain ⟨rest, hbody⟩ := exists_bodyPiece_eq h
  obtain ⟨after, htext⟩ := s.exists_textBy_eq_opening read
  refine ⟨s.opening, rest ++ after, fun hnil => ?_, ?_⟩
  · have hlast := s.getLast?_opening
    rw [hnil] at hlast
    cases hlast
  · rw [htext, hbody]
    simp only [List.append_assoc]

/-- A script whose pieces make no mark has none. -/
theorem unmarked_textBy {read : List Char → List Snippet.Tree} {s : Script}
    (himports : Unmarked s.imports) (hdeclarations : ∀ d ∈ s.declarations, Unmarked d)
    (hprologue : ∀ prologue ∈ s.prologue, Unmarked prologue) (hbody : Unmarked s.body)
    (hepilogue : ∀ epilogue ∈ s.epilogue, Unmarked epilogue) : Unmarked (s.textBy read) := by
  have hbodyPiece : Unmarked (s.bodyPiece read) := by
    unfold bodyPiece
    split
    · exact Snippet.unmarked_returningText (by rwa [Snippet.textOf_outlineBy])
    · exact hbody
  have himport : ∀ piece ∈ s.importPieces, Unmarked piece := by
    intro piece hpiece
    unfold importPieces at hpiece
    split at hpiece
    · cases hpiece
    · rwa [List.mem_singleton.1 hpiece]
  have hoption : ∀ {o : Option (List Char)}, (∀ t ∈ o, Unmarked t) → ∀ t ∈ o.toList, Unmarked t :=
    fun h t ht => h t (Option.mem_toList.1 ht)
  -- neither part of the wrapper has a hash in it
  have hwrapper : ∀ part : List Char, '#' ∉ part →
      ∀ piece ∈ if s.wrapped then [part] else [], Unmarked piece := by
    intro part hpart piece hpiece
    split at hpiece
    · rw [List.mem_singleton.1 hpiece]
      exact unmarked_of_notMem hpart
    · cases hpiece
  refine (s.onOwnLines_pieces read).unmarked ?_
  simp only [pieces, piecesBefore, piecesAfter, List.forall_mem_append, List.forall_mem_cons]
  exact ⟨⟨⟨⟨himport, hdeclarations⟩, hoption hprologue⟩, hwrapper wrapperHead (by decide +kernel)⟩,
    hbodyPiece, hwrapper (wrapperTail.drop 1) (by decide +kernel), hoption hepilogue⟩

end Script

/-- A launcher is in the script, and not at its start, if nothing is imported; and else it is not in the
    script, nor is any other mark, if there is none anywhere else. -/
theorem expandBy_launcher {read : List Char → List Snippet.Tree} (p : Parameters) {snippet : String}
    (settings : Settings) {script : String} {line : List Char} {pieces : List Snippet.Piece}
    (houtline : Snippet.outlineBy read snippet.toList = .launcher ('#' :: '!' :: line) :: pieces)
    (hexpand : expandBy read p snippet settings = .ok script) :
    ((∀ piece ∈ pieces, piece.isImport = false) →
      ∃ before after, before ≠ [] ∧ script.toList = before ++ ('#' :: '!' :: line) ++ after) ∧
    ((∃ piece ∈ pieces, piece.isImport = true) → Unmarked snippet.toList.tail →
      (∀ t ∈ p.texts, Unmarked t) → Unmarked script.toList) := by
  have htext : Snippet.textOf (Snippet.outlineBy read snippet.toList) = snippet.toList :=
    Snippet.textOf_outlineBy _ _
  obtain ⟨-, -, hexpand⟩ := exists_of_bind_eq_ok hexpand
  obtain ⟨keyword, -, hexpand⟩ := exists_of_bind_eq_ok hexpand
  cases hexpand
  rw [String.toList_ofList]
  constructor
  · -- the snippet is its own body
    intro hnone
    have hparts : Snippet.partsBy read snippet.toList = ⟨[], snippet.toList⟩ := by
      have hall : ∀ piece ∈ .launcher ('#' :: '!' :: line) :: pieces, piece.isImport = false :=
        List.forall_mem_cons.2 ⟨rfl, hnone⟩
      rw [houtline] at htext
      rw [Snippet.partsBy, houtline, Snippet.partsOf, Snippet.atLastImport_of_forall hall]
      simp [htext]
    have hbody : Snippet.outlineBy read (scriptBy read p keyword snippet.toList).body =
        .launcher ('#' :: '!' :: line) :: pieces := by
      rw [scriptBy, hparts, houtline]
    exact Script.exists_textBy_eq hbody
  · -- the launcher is in neither part, and all else that goes into the script makes no mark
    intro himport hmark hbag
    have hpieces : Unmarked (Snippet.textOf pieces) := by
      rw [houtline, Snippet.textOf, List.flatMap_cons] at htext
      rw [← htext] at hmark
      exact hmark.of_infix (List.suffix_append ('!' :: line) _).isInfix
    have hparts := Snippet.unmarked_partsOf ('#' :: '!' :: line) himport hpieces
    rw [← houtline] at hparts
    obtain ⟨himports, hbody⟩ := hparts
    rw [Parameters.texts, List.forall_mem_append, List.map_append, List.forall_mem_append] at hbag
    obtain ⟨hvars, hprologue, hepilogue⟩ := hbag
    have hoption : ∀ {o : Option String}, (∀ t ∈ o.toList.map String.toList, Unmarked t) →
        ∀ t ∈ o.map String.toList, Unmarked t := by
      intro o ho t ht
      cases o with
      | none => cases ht
      | some text => exact ho t (by simpa [eq_comm] using ht)
    refine Script.unmarked_textBy himports ?_ (hoption hprologue) hbody (hoption hepilogue)
    intro declaration hdeclaration
    obtain ⟨b, hb, rfl⟩ := List.mem_map.1 hdeclaration
    obtain ⟨⟨name, value⟩, hvar, rfl⟩ := List.mem_map.1 hb
    have htexts : ∀ t ∈ name.toList :: (Value.ofJson value).texts, Unmarked t := fun t ht =>
      hvars t (List.mem_flatMap.2 ⟨(name, value), hvar, ht⟩)
    rw [List.forall_mem_cons] at htexts
    exact Binding.unmarked_declaration htexts.1 htexts.2 keyword _

/-- A reader that finds the same leaves in every text: their symbols, and where they start and stop. -/
def Snippet.readLeaves (leaves : List (Symbol × Nat × Nat)) : List Char → List Tree := fun _ =>
  leaves.map fun (symbol, content, stop) => .leaf Network.snippets.get symbol content content stop

/-- A launcher stands before a call, and one before an import. -/
theorem expandBy_launcher_before_call :
    (∃ script,
      expandBy (Snippet.readLeaves [(.ofToken .launcher, 0, 6), (.ofCategory .expressionStatement, 7, 10)])
        { Parameters.none with resultKind := .output } "#!deno\nf()" default = .ok script ∧
      ∃ before after, before ≠ [] ∧ script.toList = before ++ "#!deno".toList ++ after) ∧
    ∃ script,
      expandBy (Snippet.readLeaves [(.ofToken .launcher, 0, 6), (.ofCategory .importStatement, 7, 18),
          (.ofCategory .expressionStatement, 18, 21)])
        { Parameters.none with vars := [("x", .string "#")], resultKind := .output }
        "#!deno\nimport 'b';f()" default = .ok script ∧
      Unmarked script.toList := by
  have hcall : Snippet.outlineBy
      (Snippet.readLeaves [(.ofToken .launcher, 0, 6), (.ofCategory .expressionStatement, 7, 10)])
      "#!deno\nf()".toList =
        [.launcher "#!deno".toList, .gap ['\n'], .other "f()".toList] := by decide +kernel
  have himport : Snippet.outlineBy
      (Snippet.readLeaves [(.ofToken .launcher, 0, 6), (.ofCategory .importStatement, 7, 18),
        (.ofCategory .expressionStatement, 18, 21)])
      "#!deno\nimport 'b';f()".toList =
        [.launcher "#!deno".toList, .gap ['\n'], .importing "import 'b';".toList,
          .other "f()".toList] := by decide +kernel
  constructor
  · exact ⟨_, rfl,
      (expandBy_launcher { Parameters.none with resultKind := .output } default hcall rfl).1 (by decide)⟩
  · exact ⟨_, rfl, (expandBy_launcher
      { Parameters.none with vars := [("x", .string "#")], resultKind := .output } default himport rfl).2
      (by decide) (by decide) (by decide)⟩

end CodeBlock
