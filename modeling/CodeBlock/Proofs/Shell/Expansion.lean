import CodeBlock.Shell.Redirect
import Mathlib.Tactic.SplitIfs

set_option autoImplicit false

/-! # What expanding words does to a shell

The words of a command are expanded in the shell that runs it. This may set variables, run commands whose
output is used, and stop the shell; a relation between a shell before and after that holds of these three holds
of expanding words, whatever they are made of (`IsSteady.expandSegments`).

Cutting a word into fields loses nothing but separators that something unquoted gave. -/

namespace CodeBlock.Shell

/-- A relation between machines before and after, which holds as long as no more is done than what expanding
    words may do. -/
structure IsSteady (substitute : Substitution) (r : Machine → Machine → Prop) : Prop where
  refl (m : Machine) : r m m
  trans {a b c : Machine} : r a b → r b c → r a c
  abort (m : Machine) (s : List Char) : r m (m.abort s)
  assign (m : Machine) (name : String) (value : List Char) : r m (m.assign name value)
  output (body : Command) (m : Machine) : r m (substitute body m).2

namespace IsSteady

variable {substitute : Substitution} {r : Machine → Machine → Prop} (hr : IsSteady substitute r)

include hr

theorem abortFor (m : Machine) (name reason : List Char) :
    r m (if m.goesOn then Shell.abortFor m name reason else m) := by
  split_ifs
  · exact hr.abort _ _
  · exact hr.refl _

theorem demand (m : Machine) (name : List Char) (value : Option (List Char)) : r m (Shell.demand m name value) := by
  unfold Shell.demand
  split_ifs
  · exact hr.abort _ _
  · exact hr.refl _

theorem assignAll (changes : List (String × List Char)) (m : Machine) :
    r m (changes.foldl (fun m (name, value) => if m.goesOn then m.assign name value else m) m) := by
  induction changes generalizing m with
  | nil => exact hr.refl _
  | cons change changes ih =>
      refine hr.trans ?_ (ih _)
      dsimp only
      split_ifs
      · exact hr.assign _ _ _
      · exact hr.refl _

mutual

theorem expandSegments (cut : Bool) : ∀ (word : List Segment) (m : Machine),
    r m (expandSegments substitute cut word m).2
  | [], m => by
      rw [Shell.expandSegments]
      exact hr.refl m
  | segment :: word, m => by
      rw [Shell.expandSegments]
      split_ifs
      · exact hr.trans (expandSegment cut segment m) (expandSegments cut word _)
      · exact hr.refl m

theorem expandSegment (cut : Bool) : ∀ (segment : Segment) (m : Machine),
    r m (expandSegment substitute cut segment m).2
  | .plain _, m => by
      rw [Shell.expandSegment]
      exact hr.refl m
  | .quoted _, m => by
      rw [Shell.expandSegment]
      exact hr.refl m
  | .quotes, m => by
      rw [Shell.expandSegment]
      exact hr.refl m
  | .home _, m => by
      rw [Shell.expandSegment]
      exact hr.refl m
  | .output body _, m => by
      rw [Shell.expandSegment]
      exact hr.output body m
  | .number expression _, m => by
      have hwords := expandSegments false expression m
      rw [Shell.expandSegment]
      dsimp only
      split
      · exact hwords
      · split
        · exact hr.trans hwords (hr.assignAll _ _)
        · exact hr.trans hwords (hr.abort _ _)
  | .parameter name adjustment isQuoted, m => by
      rw [Shell.expandSegment]
      exact expandParameter cut name isQuoted adjustment m

theorem expandParameter (cut : Bool) (name : List Char) (isQuoted : Bool) :
    ∀ (adjustment : Adjustment) (m : Machine), r m (expandParameter substitute cut name isQuoted adjustment m).2
  | .plain, m => by
      rw [Shell.expandParameter]
      exact hr.demand m _ _
  | .length, m => by
      rw [Shell.expandParameter]
      exact hr.demand m _ _
  | .senseless, m => by
      rw [Shell.expandParameter]
      exact hr.abort m _
  | .replaced replacement blank word, m => by
      have hwords := fun cut => expandSegments cut word m
      unfold Shell.expandParameter
      dsimp only
      split
      · exact hr.refl m
      · exact hwords cut
      · exact hwords cut
      · split_ifs
        · exact hr.trans (hwords false) (hr.assign _ _ _)
        · exact hwords false
      · exact hr.trans (hwords false) (hr.abortFor _ _ _)
      · exact hr.refl m
  | .without atStart longest word, m => by
      have hvalue := hr.demand m name (parameterText? m name)
      rw [Shell.expandParameter]
      dsimp only
      split
      · exact hvalue
      · exact hr.trans hvalue (expandSegments false word _)

end

theorem expandText (word : Word) (m : Machine) : r m (expandText substitute word m).2 :=
  hr.expandSegments false _ m

theorem expandFields (word : Word) (m : Machine) : r m (expandFields substitute word m).2 :=
  hr.expandSegments true _ m

theorem expandAll (words : List Word) (m : Machine) : r m (expandAll substitute words m).2 := by
  induction words generalizing m with
  | nil => exact hr.refl m
  | cons word words ih =>
      unfold Shell.expandAll
      split_ifs
      · exact hr.trans (hr.expandFields word m) (ih _)
      · exact hr.refl m

end IsSteady

theorem IsSteady.targetsOf {run : Runner} {r : Machine → Machine → Prop} (hr : IsSteady (substitute run) r)
    (redirections : List Redirection) (m : Machine) : r m (targetsOf run redirections m).2 := by
  have htarget : ∀ (channel : Channel) (m : Machine), r m (targetOf run channel m).2 := by
    intro channel m
    cases channel with
    | file path use => exact hr.expandText path m
    | here text => exact hr.refl m
    | copy word =>
      have hword := hr.expandText word m
      unfold targetOf
      dsimp only
      split
      · exact hword
      · split_ifs
        · exact hword
        · exact hr.trans hword (hr.abort _ _)
      · split_ifs
        · exact hr.trans hword (hr.abort _ _)
        · exact hword
  induction redirections generalizing m with
  | nil => exact hr.refl m
  | cons redirection redirections ih =>
      obtain ⟨descriptor, channel⟩ := redirection
      have hfirst := htarget channel m
      unfold Shell.targetsOf
      split_ifs
      · cases hfound : targetOf run channel m with
        | mk target m' =>
          rw [hfound] at hfirst
          cases target with
          | none => exact hfirst
          | some target => exact hr.trans hfirst (ih m')
      · exact hr.refl m

/-! ## Fields -/

/-- The characters of letters that are not separators which something unquoted gave. -/
def keptOf (separators : List Char) (letters : List Letter) : List (Char × Bool) :=
  letters.flatMap fun
    | .char c q => [(c, q)]
    | .given c => if separators.contains c then [] else [(c, false)]
    | .something => []
    | .fieldEnd => []

theorem cutFields_given (separators : List Char) (current : Option (List (Char × Bool))) (afterBlank : Bool)
    (c : Char) (letters : List Letter) : cutFields separators current afterBlank (.given c :: letters) =
      if separators.contains c then
        if c = ' ' ∨ c = '\t' ∨ c = '\n' then
          match current with
          | some field => field.reverse :: cutFields separators none true letters
          | none => cutFields separators none afterBlank letters
        else if current.isNone && afterBlank then cutFields separators none false letters
        else (current.getD []).reverse :: cutFields separators none false letters
      else cutFields separators (some ((c, false) :: current.getD [])) false letters := by
  cases current <;> exact cutFields.eq_def _ _ _ _

/-- The fields of a word are made of all its characters but the separators at which it may be cut. -/
theorem flatten_cutFields (separators : List Char) (current : Option (List (Char × Bool))) (afterBlank : Bool)
    (letters : List Letter) : (cutFields separators current afterBlank letters).flatten =
      (current.getD []).reverse ++ keptOf separators letters := by
  have hcurrent : ∀ current : Option (List (Char × Bool)), ((current.map List.reverse).toList).flatten =
      (current.getD []).reverse := by
    intro current
    cases current <;> simp
  induction letters generalizing current afterBlank with
  | nil => simp [cutFields, keptOf, hcurrent]
  | cons letter letters ih =>
      cases letter with
      | char c q => simp [cutFields, keptOf, ih]
      | something => simp [cutFields, keptOf, ih]
      | fieldEnd => simp [cutFields, keptOf, ih, hcurrent]
      | given c =>
        have hkept : keptOf separators (.given c :: letters) =
            (if separators.contains c then [] else [(c, false)]) ++ keptOf separators letters := rfl
        rw [cutFields_given, hkept]
        split_ifs with hc hwhite hnone
        · cases current with
          | none => exact ih none afterBlank
          | some field => simp [ih]
        · rw [ih, Option.isNone_iff_eq_none.1 (Bool.and_eq_true_iff.1 hnone).1]
          rfl
        · simp [ih]
        · simp [ih]

/-- Where only blanks separate, what something unquoted gave makes no empty fields. -/
theorem nil_notMem_cutFields {separators : List Char} (hblank : ∀ c ∈ separators, c = ' ' ∨ c = '\t' ∨ c = '\n')
    {current : Option (List (Char × Bool))} (hcurrent : current ≠ some []) (afterBlank : Bool) (s : List Char) :
    [] ∉ cutFields separators current afterBlank (s.map .given) := by
  induction s generalizing current afterBlank with
  | nil =>
      cases current with
      | none => exact List.not_mem_nil
      | some field =>
        have hfield : field ≠ [] := fun h => hcurrent (congrArg some h)
        simpa [cutFields] using hfield.symm
  | cons c s ih =>
      rw [List.map_cons, cutFields_given]
      split_ifs with hc hwhite
      · cases current with
        | none => exact ih (by simp) _
        | some field =>
          have hfield : field ≠ [] := fun h => hcurrent (congrArg some h)
          rw [List.mem_cons, not_or]
          exact ⟨by simpa using hfield.symm, ih (by simp) _⟩
      · exact absurd (hblank c (List.contains_iff_mem.1 hc)) hwhite
      · exact absurd (hblank c (List.contains_iff_mem.1 hc)) hwhite
      · exact ih (by simp) _

/-- Nothing that is quoted makes a pattern. -/
theorem isPattern_map_true (s : List Char) : isPattern (s.map (·, true)) = false := by
  have hread : readPattern (s.map (·, true)).length (s.map (·, true)) = s.map .exactly := by
    induction s with
    | nil => rfl
    | cons c s ih => simp [readPattern, ← ih]
  rw [isPattern, Pattern.ofMarked, hread]
  simp [PatternPart.isOpen]

/-- A parameter between double quotes is one field with just its value in it, whatever blanks and patterns that
    value has. -/
theorem expandFields_quoted_parameter (substitute : Substitution) {name value : List Char} {m : Machine}
    (hm : m.goesOn = true) (hname : name ≠ ['@']) (hvalue : parameterText? m name = some value) :
    expandFields substitute [.quotes, .parameter name .plain true] m = ([value], m) := by
  have hcut : ∀ (field : List (Char × Bool)) (separators s : List Char),
      cutFields separators (some field) false (s.map (.char · true)) = [field.reverse ++ s.map (·, true)] := by
    intro field separators s
    induction s generalizing field with
    | nil => simp [cutFields]
    | cons c s ih => simp [cutFields, ih]
  have hhome : withHome (· == '/') [.quotes, .parameter name .plain true] =
      [.quotes, .parameter name .plain true] := rfl
  simp only [expandFields, expand, hhome, expandSegments, expandSegment, expandParameter, parameterLetters, hm,
    hname, hvalue, demand, lettersOf]
  simp [cutFields, hcut, namesLike, isPattern_map_true, Function.comp_def]

end CodeBlock.Shell
