import CodeBlock.Shell.Editor.Run
import Mathlib.Tactic.SplitIfs

set_option autoImplicit false

/-! # Scripts that rewrite each line

Many scripts of the line editor do nothing but put another text in the place of each line, as one that replaces what
fits or exchanges letters. Such a script is a function of texts. Run over a text, it gives the text whose lines are
what the function makes of them, in order, and a last line that has no end gets none. A script without commands
gives back the text as it is. -/

namespace CodeBlock.Shell.Editor

/-! ## Lines of a text -/

/-- A line as it stands in a text. -/
def Space.written (lineEnd : Char) (s : Space) : List Char := if s.isEnded then s.text ++ [lineEnd] else s.text

variable (lineEnd : Char)

theorem flatMap_written_spacesOf (s : List Char) : (spacesOf lineEnd s).flatMap (Space.written lineEnd) = s := by
  induction s with
  | nil => rfl
  | cons c s ih =>
    unfold spacesOf
    split_ifs with hc
    · rw [List.flatMap_cons, ih, hc]
      rfl
    · cases hlines : spacesOf lineEnd s with
      | nil =>
        rw [hlines] at ih
        rw [← ih]
        rfl
      | cons line lines =>
        rw [hlines] at ih
        rw [← ih]
        simp only [List.flatMap_cons, Space.written]
        split_ifs <;> rfl

theorem isEnded_of_mem_dropLast {s : List Char} {line : Space} (h : line ∈ (spacesOf lineEnd s).dropLast) :
    line.isEnded = true := by
  induction s generalizing line with
  | nil => cases h
  | cons c s ih =>
    unfold spacesOf at h
    split_ifs at h
    · cases hlines : spacesOf lineEnd s with
      | nil => rw [hlines] at h; cases h
      | cons first others =>
        rw [hlines, List.dropLast_cons_cons] at h
        obtain rfl | h := List.mem_cons.1 h
        · rfl
        · exact ih (hlines ▸ h)
    · cases hlines : spacesOf lineEnd s with
      | nil => rw [hlines] at h; cases h
      | cons first others =>
        rw [hlines] at h ih
        cases others with
        | nil => cases h
        | cons second others =>
          rw [List.dropLast_cons_cons] at h ih
          obtain rfl | h := List.mem_cons.1 h
          · exact (ih List.mem_cons_self : first.isEnded = true)
          · exact ih (List.mem_cons_of_mem _ h)

/-- What is known of a line besides its text does not come from the text. -/
theorem map_linesOf (name s : List Char) :
    (linesOf lineEnd [(name, s)]).map (fun line => Space.mk line.text line.isEnded) = spacesOf lineEnd s := by
  have hnumbered : ∀ (lines : List (List Char × Space)) (f : (List Char × Space) × Nat → Line) (n : Nat),
      (∀ entry, Space.mk (f entry).text (f entry).isEnded = entry.1.2) →
      ((lines.zipIdx n).map f).map (fun line => Space.mk line.text line.isEnded) = lines.map Prod.snd := by
    intro lines f n hf
    induction lines generalizing n with
    | nil => rfl
    | cons line lines ih => rw [List.zipIdx_cons, List.map_cons, List.map_cons, hf, ih, List.map_cons]
  unfold linesOf
  rw [hnumbered _ _ 0 fun _ => rfl]
  simp [Function.comp_def]

/-! ## Printed lines -/

theorem text_addLine {o : Output} (ho : o.owesEnd = false) (s : Space) :
    (o.addLine s lineEnd).text = o.text ++ s.written lineEnd := by
  unfold Output.addLine Space.written
  split_ifs <;> simp [Output.add, Output.text, ho]

theorem text_foldl_addLine {lines : List Space} {o : Output} (ho : o.owesEnd = false)
    (hended : ∀ line ∈ lines.dropLast, line.isEnded = true) :
    (lines.foldl (fun o line => o.addLine line lineEnd) o).text =
      o.text ++ lines.flatMap (Space.written lineEnd) := by
  induction lines generalizing o with
  | nil => simp
  | cons line lines ih =>
    cases lines with
    | nil => rw [List.foldl_cons, List.foldl_nil, text_addLine lineEnd ho]; simp
    | cons next lines =>
      rw [List.dropLast_cons_cons] at hended
      obtain ⟨hline, hlines⟩ := List.forall_mem_cons.1 hended
      have hadded : (o.addLine line lineEnd).owesEnd = false := by simp [Output.addLine, hline]
      rw [List.foldl_cons, ih hadded hlines, text_addLine lineEnd ho, List.flatMap_cons (x := line),
        List.append_assoc]

/-! ## What a script makes of a line -/

/-- Which texts a selection means, if that is a matter of the text alone. -/
def Selection.test? : Selection → Option (List Char → Bool)
  | all => some fun _ => true
  | one (.fits (some pattern)) => some pattern.occursIn
  | _ => none

/-- The text that an action puts in the place of a line, if it does nothing else. -/
def Action.rewrite? : Action → Option (List Char → List Char)
  | exchangeLetters pairs => some (List.map fun c => (pairs.lookup c).getD c)
  | clear => some fun _ => []
  | nothing => some id
  | mark _ => some id
  | replace r =>
      match r.pattern, r.isPrinted, r.file with
      | some pattern, false, none => some fun text =>
          if (replaced r pattern text).1 then (replaced r pattern text).2 else text
      | _, _, _ => none
  | _ => none

/-- The text that a command puts in the place of a line, if it does nothing else. -/
def Instruction.rewrite? (i : Instruction) : Option (List Char → List Char) := do
  let test ← i.selection.test?
  let f ← i.action.rewrite?
  return fun text => if test text != i.negated then f text else text

/-- The text that commands put in the place of a line, if they do nothing else. -/
def rewriteAll? : List Instruction → Option (List Char → List Char)
  | [] => some id
  | i :: rest => do
      let f ← i.rewrite?
      let g ← rewriteAll? rest
      return g ∘ f

/-- What is the case after a line was given another text. -/
structure State.Rewritten (f : List Char → List Char) (s after : State) : Prop where
  space : after.space = ⟨f s.space.text, s.space.isEnded⟩
  ahead : after.ahead = s.ahead
  additions : after.additions = s.additions
  output : after.output = s.output

namespace State.Rewritten

variable {f g : List Char → List Char} {s after last : State}

theorem refl (s : State) : Rewritten id s s := ⟨rfl, rfl, rfl, rfl⟩

theorem trans (hf : Rewritten f s after) (hg : Rewritten g after last) : Rewritten (g ∘ f) s last where
  space := by rw [hg.space, hf.space]; rfl
  ahead := hg.ahead.trans hf.ahead
  additions := hg.additions.trans hf.additions
  output := hg.output.trans hf.output

end State.Rewritten

variable (set : Setting) {f : List Char → List Char}

/-- A selection that is a matter of the text alone changes nothing that a line is. -/
theorem holds_of_test? {i : Instruction} {test : List Char → Bool} (h : i.selection.test? = some test) (s : State) :
    (i.holds s).1 = (test s.space.text != i.negated) ∧ (State.Rewritten id s (i.holds s).2) := by
  unfold Selection.test? at h
  split at h
  · rename_i hall
    obtain rfl := Option.some.inj h
    simp [Instruction.holds, hall, State.Rewritten.refl]
  · rename_i hone
    obtain rfl := Option.some.inj h
    simp only [Instruction.holds, hone]
    exact ⟨rfl, rfl, rfl, rfl, rfl⟩
  · cases h

/-- A command that is not meant for the line is passed over, unless a block starts with it. -/
theorem runInstructions_of_not_holds {i : Instruction} {s found : State} (h : i.holds s = (false, found))
    (henter : i.action ≠ .enter) (fuel : Nat) (rest : List Instruction) :
    runInstructions set (fuel + 1) (i :: rest) s = runInstructions set fuel rest found := by
  rw [runInstructions, h]
  dsimp only
  rw [Bool.not_false, if_pos rfl]
  split
  · contradiction
  · rfl

theorem runInstructions_of_holds {i : Instruction} {s found : State} (h : i.holds s = (true, found))
    (haction : i.action.rewrite? = some f) (fuel : Nat) (rest : List Instruction) :
    ∃ after, found.Rewritten f after ∧
      runInstructions set (fuel + 1) (i :: rest) s = runInstructions set fuel rest after := by
  rw [runInstructions, h]
  dsimp only
  rw [Bool.not_true, if_neg Bool.false_ne_true]
  unfold Action.rewrite? at haction
  split at haction
  case h_1 pairs hi =>
    obtain rfl := Option.some.inj haction
    rw [hi]
    refine ⟨_, ?_, rfl⟩
    exact ⟨rfl, rfl, rfl, rfl⟩
  case h_2 hi =>
    obtain rfl := Option.some.inj haction
    rw [hi]
    refine ⟨_, ?_, rfl⟩
    exact ⟨rfl, rfl, rfl, rfl⟩
  case h_3 hi | h_4 hi =>
    obtain rfl := Option.some.inj haction
    rw [hi]
    exact ⟨found, .refl found, rfl⟩
  case h_5 r hi =>
    split at haction
    case h_1 pattern hpattern hprinted hfile =>
      obtain rfl := Option.some.inj haction
      rw [hi]
      dsimp only
      rw [hpattern, hprinted, hfile]
      dsimp only [Option.some_or]
      -- a text in which nothing fits is left as it is
      split
      next hreplaced =>
        refine ⟨_, ?_, rfl⟩
        exact ⟨by rw [hreplaced]; rfl, rfl, rfl, rfl⟩
      next hreplaced =>
        refine ⟨_, ?_, rfl⟩
        exact ⟨by rw [hreplaced]; rfl, rfl, rfl, rfl⟩
    case h_2 => cases haction
  case h_6 => cases haction

/-- A command that does nothing but rewrite the line does so if it is meant for it. -/
theorem runInstructions_cons {i : Instruction} (h : i.rewrite? = some f) (fuel : Nat) (rest : List Instruction)
    (s : State) : ∃ after, s.Rewritten f after ∧
      runInstructions set (fuel + 1) (i :: rest) s = runInstructions set fuel rest after := by
  obtain ⟨test, htest, h⟩ := Option.bind_eq_some_iff.1 h
  obtain ⟨g, haction, h⟩ := Option.bind_eq_some_iff.1 h
  obtain rfl := Option.some.inj h
  obtain ⟨hholds, hsame⟩ := holds_of_test? htest s
  by_cases hmeant : (test s.space.text != i.negated) = true
  · have hheld : i.holds s = (true, (i.holds s).2) := Prod.ext (hholds.trans hmeant) rfl
    obtain ⟨after, hafter, hrun⟩ := runInstructions_of_holds set hheld haction fuel rest
    have hrewritten := hsame.trans hafter
    exact ⟨after, ⟨by rw [hrewritten.space, if_pos hmeant]; rfl, hrewritten.ahead, hrewritten.additions,
      hrewritten.output⟩, hrun⟩
  · have henter : i.action ≠ .enter := by
      intro henter
      rw [henter] at haction
      cases haction
    have hpassed : i.holds s = (false, (i.holds s).2) := Prod.ext (hholds.trans (by simpa using hmeant)) rfl
    refine ⟨(i.holds s).2, ⟨?_, hsame.ahead, hsame.additions, hsame.output⟩,
      runInstructions_of_not_holds set hpassed henter fuel rest⟩
    rw [hsame.space, if_neg hmeant]
    rfl

theorem runInstructions_of_rewriteAll? {instructions : List Instruction} (h : rewriteAll? instructions = some f)
    {fuel : Nat} (hfuel : instructions.length < fuel) (s : State) : ∃ after, s.Rewritten f after ∧
      runInstructions set fuel instructions s = (.nextLine, after.printUnlessSilent set) := by
  induction instructions generalizing f fuel s with
  | nil =>
    obtain rfl := Option.some.inj h
    obtain ⟨fuel, rfl⟩ := Nat.exists_eq_succ_of_ne_zero (Nat.ne_zero_of_lt hfuel)
    exact ⟨s, .refl s, runInstructions.eq_2 set s fuel⟩
  | cons i rest ih =>
    obtain ⟨first, hfirst, h⟩ := Option.bind_eq_some_iff.1 h
    obtain ⟨others, hothers, h⟩ := Option.bind_eq_some_iff.1 h
    obtain rfl := Option.some.inj h
    obtain ⟨fuel, rfl⟩ := Nat.exists_eq_succ_of_ne_zero (Nat.ne_zero_of_lt hfuel)
    obtain ⟨next, hnext, hrun⟩ := runInstructions_cons set hfirst fuel rest s
    obtain ⟨after, hafter, hrest⟩ := ih hothers (Nat.lt_of_succ_lt_succ hfuel) next
    exact ⟨after, hnext.trans hafter, hrun.trans hrest⟩

/-! ## Texts -/

section

variable {set}

theorem runTexts_singleton {line : Line} {ahead : List Line} {s after : State} {status : Option Nat} {ended : Bool}
    (h : runLines set (stepLimit + (line :: ahead).length)
      (State.takeLine { s with ranges := [] } line ahead line.text) = (status, ended, after)) :
    (runTexts set [line :: ahead] s).1 = [after.output.text] := by
  simp only [runTexts, State.before, h]
  split_ifs <;> rfl

variable (hsilent : set.isSilent = false) (hscript : rewriteAll? set.script = some f)
  (hlength : set.script.length < stepLimit)

include hsilent hscript hlength

theorem runLines_of_rewriteAll? {fuel : Nat} {s : State} (hfuel : s.ahead.length < fuel) (hs : s.additions = []) :
    ∃ after, runLines set fuel s = (some 0, false, after) ∧
      after.output = ((s.space :: s.ahead.map fun line => ⟨line.text, line.isEnded⟩).map fun line =>
        Space.mk (f line.text) line.isEnded).foldl (fun o line => o.addLine line set.lineEnd) s.output := by
  induction fuel generalizing s with
  | zero => omega
  | succ fuel ih =>
    obtain ⟨after, hafter, hrun⟩ := runInstructions_of_rewriteAll? set hscript hlength s
    have hflush : (after.printUnlessSilent set).flush set =
        { after.print set after.space with additions := [] } := by
      rw [State.printUnlessSilent, hsilent, if_neg Bool.false_ne_true]
      unfold State.flush
      rw [show (after.print set after.space).additions = [] from hafter.additions.trans hs]
      rfl
    rw [runLines, hrun]
    dsimp only
    rw [hflush]
    dsimp only [State.print]
    rw [hafter.ahead, hafter.output, hafter.space]
    cases hahead : s.ahead with
    | nil => exact ⟨_, rfl, rfl⟩
    | cons line ahead =>
      rw [hahead] at hfuel
      exact ih (Nat.lt_of_succ_lt_succ hfuel) rfl

/-- Over one text, the lines that are printed are what the script makes of those of the text. -/
theorem runTexts_of_rewriteAll? (name s : List Char) :
    (runTexts set [linesOf set.lineEnd [(name, s)]] (.start set.script)).1 =
      [((spacesOf set.lineEnd s).map fun line => Space.mk (f line.text) line.isEnded).flatMap
        (Space.written set.lineEnd)] := by
  have hlines := map_linesOf set.lineEnd name s
  have hended : ∀ line ∈ ((spacesOf set.lineEnd s).map fun line => Space.mk (f line.text) line.isEnded).dropLast,
      line.isEnded = true := by
    rw [← List.map_dropLast]
    intro line hmem
    obtain ⟨line, hline, rfl⟩ := List.mem_map.1 hmem
    exact (isEnded_of_mem_dropLast set.lineEnd hline : line.isEnded = true)
  cases hcut : linesOf set.lineEnd [(name, s)] with
  | nil =>
    rw [hcut] at hlines
    rw [← hlines]
    rfl
  | cons line ahead =>
    have hfuel : ahead.length < stepLimit + (line :: ahead).length := by
      rw [List.length_cons]
      omega
    obtain ⟨after, hrun, houtput⟩ := runLines_of_rewriteAll? hsilent hscript hlength
      (s := State.takeLine { State.start set.script with ranges := [] } line ahead line.text) hfuel rfl
    rw [hcut, List.map_cons] at hlines
    rw [← hlines] at hended ⊢
    rw [runTexts_singleton hrun, houtput]
    exact congrArg (fun output => [output]) (text_foldl_addLine set.lineEnd rfl hended)

end

/-- Without commands, a text is printed as it is. -/
theorem runTexts_nil (hsilent : set.isSilent = false) (hscript : set.script = []) (name s : List Char) :
    (runTexts set [linesOf set.lineEnd [(name, s)]] (.start set.script)).1 = [s] := by
  have hid : rewriteAll? set.script = some id := by rw [hscript]; rfl
  have hlength : set.script.length < stepLimit := by simp [hscript, stepLimit]
  rw [runTexts_of_rewriteAll? hsilent hid hlength]
  have hsame : (spacesOf set.lineEnd s).map (fun line => Space.mk (id line.text) line.isEnded) =
      spacesOf set.lineEnd s := by simp
  rw [hsame, flatMap_written_spacesOf]

end CodeBlock.Shell.Editor
