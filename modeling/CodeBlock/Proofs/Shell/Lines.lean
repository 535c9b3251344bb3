import CodeBlock.Shell.Tool.Parts
import Mathlib.Data.List.TakeWhile

set_option autoImplicit false

/-! # Lines, and tools that give parts of a text

A text is cut into its lines in one way: each of them ends in a line end, which only the last one may lack.
So its first lines and the others make up the text again, and lines that are put in the other order twice,
or turned around twice, are the lines that they were. -/

namespace CodeBlock.Shell

/-! ## Lines -/

/-- The lines of a text with their ends, which the last one may lack. -/
inductive IsLines : List (List Char) → List Char → Prop where
  | nil : IsLines [] []
  | last {line : List Char} (hne : line ≠ []) (h : '\n' ∉ line) : IsLines [line] line
  | cons {line : List Char} {lines : List (List Char)} {s : List Char} (h : '\n' ∉ line)
      (hlines : IsLines lines s) : IsLines ((line ++ ['\n']) :: lines) (line ++ '\n' :: s)

theorem wholeLines_append {line : List Char} (h : '\n' ∉ line) (s : List Char) :
    wholeLines (line ++ '\n' :: s) = (line ++ ['\n']) :: wholeLines s := by
  induction line with
  | nil => simp [wholeLines]
  | cons c line ih =>
      rw [List.mem_cons, not_or] at h
      rw [List.cons_append, wholeLines, if_neg (Ne.symm h.1), ih h.2]
      rfl

theorem wholeLines_of_notMem {line : List Char} (hne : line ≠ []) (h : '\n' ∉ line) :
    wholeLines line = [line] := by
  induction line with
  | nil => exact absurd rfl hne
  | cons c line ih =>
      rw [List.mem_cons, not_or] at h
      rw [wholeLines, if_neg (Ne.symm h.1)]
      cases line with
      | nil => rfl
      | cons d line => rw [ih (List.cons_ne_nil d line) h.2]

theorem isLines_wholeLines (s : List Char) : IsLines (wholeLines s) s := by
  induction s with
  | nil => exact .nil
  | cons c rest ih =>
      by_cases hc : c = '\n'
      · subst hc
        rw [wholeLines, if_pos rfl]
        exact IsLines.cons (List.not_mem_nil (a := '\n')) ih
      · -- the character goes in front of the first of the other lines
        generalize hlines : wholeLines rest = lines at ih
        rw [wholeLines, if_neg hc, hlines]
        have hnot : ∀ {line : List Char}, '\n' ∉ line → '\n' ∉ c :: line := by
          intro line hline
          rw [List.mem_cons, not_or]
          exact ⟨Ne.symm hc, hline⟩
        cases ih with
        | nil => exact .last (List.cons_ne_nil c []) (hnot List.not_mem_nil)
        | last hne h => exact .last (List.cons_ne_nil c _) (hnot h)
        | cons h hrest => exact .cons (hnot h) hrest

namespace IsLines

variable {lines : List (List Char)} {s : List Char}

theorem wholeLines_eq (h : IsLines lines s) : wholeLines s = lines := by
  induction h with
  | nil => rfl
  | last hne h => exact wholeLines_of_notMem hne h
  | cons h _ ih => rw [wholeLines_append h, ih]

/-- Nothing of a text is lost when it is cut into lines. -/
theorem flatten_eq (h : IsLines lines s) : lines.flatten = s := by
  induction h with
  | nil => rfl
  | last => simp
  | cons _ _ ih => simp [ih]

theorem take (h : IsLines lines s) (n : Nat) : IsLines (lines.take n) (lines.take n).flatten := by
  induction h generalizing n with
  | nil => simpa using IsLines.nil
  | last hne h =>
      cases n with
      | zero => exact .nil
      | succ n => simpa using IsLines.last hne h
  | cons h _ ih =>
      cases n with
      | zero => exact .nil
      | succ n => simpa using IsLines.cons h (ih n)

theorem drop (h : IsLines lines s) (n : Nat) : IsLines (lines.drop n) (lines.drop n).flatten := by
  induction h generalizing n with
  | nil => simpa using IsLines.nil
  | last hne h =>
      cases n with
      | zero => simpa using IsLines.last hne h
      | succ n => simpa using IsLines.nil
  | cons h hlines ih =>
      cases n with
      | zero => simpa [hlines.flatten_eq] using IsLines.cons h hlines
      | succ n => exact ih n

/-- Lines that all have their ends are lines of what they make up in any order. -/
theorem of_forall (h : ∀ line ∈ lines, ∃ text, '\n' ∉ text ∧ line = text ++ ['\n']) :
    IsLines lines lines.flatten := by
  induction lines with
  | nil => exact .nil
  | cons line lines ih =>
      obtain ⟨text, htext, rfl⟩ := h line List.mem_cons_self
      simpa using IsLines.cons htext (ih fun line hline => h line (List.mem_cons_of_mem _ hline))

theorem forall_ended (h : IsLines lines s) (hs : s = [] ∨ s.getLast? = some '\n') :
    ∀ line ∈ lines, ∃ text, '\n' ∉ text ∧ line = text ++ ['\n'] := by
  induction h with
  | nil => simp
  | last hne h =>
      rcases hs with rfl | hlast
      · exact absurd rfl hne
      · exact absurd (List.mem_of_getLast? hlast) h
  | @cons line lines s h hlines ih =>
      refine List.forall_mem_cons.2 ⟨⟨line, h, rfl⟩, ih ?_⟩
      cases s with
      | nil => exact .inl rfl
      | cons c s => simpa [List.getLast?_append, List.getLast?_cons_cons] using hs

end IsLines

/-- A text has one way of being cut into lines. -/
theorem isLines_iff {lines : List (List Char)} {s : List Char} : IsLines lines s ↔ wholeLines s = lines :=
  ⟨IsLines.wholeLines_eq, fun h => h ▸ isLines_wholeLines s⟩

/-! ## Starts and ends -/

namespace Extent

/-- The start of a text and the end that is left when so much is counted off make up the text. -/
theorem atStart_append_atEnd (n : Nat) (inLines : Bool) (s : List Char) :
    (⟨n, inLines, false⟩ : Extent).atStart s ++ (⟨n + 1, inLines, true⟩ : Extent).atEnd s = s := by
  cases inLines with
  | true =>
      simp only [atStart, atEnd, if_true, Bool.false_eq_true, if_false, Nat.add_sub_cancel]
      rw [← List.flatten_append, List.take_append_drop, (isLines_wholeLines s).flatten_eq]
  | false => simp [atStart, atEnd]

/-- So do the end of a text and the start that is left when so much is counted off from the end. -/
theorem atStart_append_atEnd_others (n : Nat) (inLines : Bool) (s : List Char) :
    (⟨n, inLines, true⟩ : Extent).atStart s ++ (⟨n, inLines, false⟩ : Extent).atEnd s = s := by
  cases inLines with
  | true =>
      simp only [atStart, atEnd, if_true, Bool.false_eq_true, if_false]
      rw [← List.flatten_append, List.take_append_drop, (isLines_wholeLines s).flatten_eq]
  | false => simp [atStart, atEnd]

/-- The first lines of a text are its lines up to their number. -/
theorem wholeLines_atStart (n : Nat) (s : List Char) :
    wholeLines ((⟨n, true, false⟩ : Extent).atStart s) = (wholeLines s).take n :=
  ((isLines_wholeLines s).take n).wholeLines_eq

/-- The last lines of a text are its lines from the one on that has so many with it behind it. -/
theorem wholeLines_atEnd (n : Nat) (s : List Char) :
    wholeLines ((⟨n, true, false⟩ : Extent).atEnd s) = (wholeLines s).drop ((wholeLines s).length - n) :=
  ((isLines_wholeLines s).drop _).wholeLines_eq

end Extent

/-! ## Counts -/

theorem isDigit_of_mem_decimal {n : Nat} {c : Char} (h : c ∈ decimal n) : c.isDigit = true :=
  Nat.isDigit_of_mem_toDigits (by decide) (by decide) h

/-- The digits of a number are read as the number. -/
theorem ofDigits_decimal (n : Nat) : ofDigits 10 (decimal n) = n := by
  have hvalue : ∀ (s : List Char) (k : Nat), (∀ c ∈ s, c.isDigit = true) →
      s.foldl (fun n c => 10 * n + digitValue c) k = Nat.ofDigitChars 10 s k := by
    intro s
    induction s with
    | nil => exact fun _ _ => rfl
    | cons c s ih =>
        intro k hs
        rw [List.foldl_cons, ih _ fun d hd => hs d (List.mem_cons_of_mem c hd), Nat.ofDigitChars_cons,
          digitValue, if_pos (hs c List.mem_cons_self)]
  exact (hvalue _ 0 fun c => isDigit_of_mem_decimal).trans Nat.ofDigitChars_ten_toDigits

theorem amountOf?_decimal (n : Nat) : amountOf? (decimal n) = some n := by
  have htake : (decimal n).takeWhile Char.isDigit = decimal n :=
    List.takeWhile_eq_self_iff.2 fun c => isDigit_of_mem_decimal
  have hne : (decimal n).isEmpty = false := List.isEmpty_eq_false_iff.2 Nat.toDigits_ne_nil
  simp only [amountOf?, htake, List.drop_length, hne, ofDigits_decimal]
  simp

/-- What the tools print that give the start of a text, and its end from a line on. -/
theorem output_extentTool (call : ToolCall) (n : Nat) :
    (extentTool "head" '-' Extent.atStart { call with arguments := ["-n".toList, decimal n] }).output =
        (⟨n, true, false⟩ : Extent).atStart call.input ∧
      (extentTool "tail" '+' Extent.atEnd
          { call with arguments := ["-n".toList, '+' :: decimal n] }).output =
        (⟨n, true, true⟩ : Extent).atEnd call.input := by
  obtain ⟨c, digits, hdecimal⟩ := List.exists_cons_of_ne_nil (l := decimal n) Nat.toDigits_ne_nil
  have hamount := amountOf?_decimal n
  have hminus : c ≠ '-' := by
    rintro rfl
    exact absurd (isDigit_of_mem_decimal (hdecimal ▸ List.mem_cons_self)) (by decide)
  have hplus : c ≠ '+' := by
    rintro rfl
    exact absurd (isDigit_of_mem_decimal (hdecimal ▸ List.mem_cons_self)) (by decide)
  have hread : ∀ value, (SwitchTable.ofText "n:c:qvfFs:" [
      ("lines", 'n'), ("bytes", 'c'), ("quiet", 'q'), ("silent", 'q'), ("verbose", 'v'),
      ("follow", 'f')]).read false ["-n".toList, value] = .ok ⟨[('n', value)], []⟩ := fun value => rfl
  have hspelled : ∀ plus value, spelledOut plus ["-n".toList, value] = ["-n".toList, value] :=
    fun plus value => rfl
  rw [hdecimal] at hamount ⊢
  have hgiven : ∀ value, ([('n', value)].filter fun (given : Char × List Char) =>
      given.1 == 'n' || given.1 == 'c').getLast? = some ('n', value) := fun value => rfl
  constructor
  · simp only [extentTool, hspelled, ToolCall.withSwitches, hread, hgiven, hminus, hplus, decide_false,
      Bool.or_self, Bool.false_eq_true, if_false, hamount]
    exact List.append_nil _
  · simp only [extentTool, hspelled, ToolCall.withSwitches, hread, hgiven, if_true, hamount]
    exact List.append_nil _

/-- The first lines of the input and those from the next one on make up the input. -/
theorem output_extentTool_append (call : ToolCall) (n : Nat) :
    (extentTool "head" '-' Extent.atStart { call with arguments := ["-n".toList, decimal n] }).output ++
      (extentTool "tail" '+' Extent.atEnd
        { call with arguments := ["-n".toList, '+' :: decimal (n + 1)] }).output = call.input := by
  rw [(output_extentTool call n).1, (output_extentTool call (n + 1)).2]
  exact Extent.atStart_append_atEnd n true call.input

/-! ## The other order -/

theorem output_reverseLines (call : ToolCall) (h : call.arguments = []) :
    (reverseLines call).output = (wholeLines call.input).reverse.flatten := by
  obtain ⟨arguments, input, inputIsFile, read⟩ := call
  obtain rfl : arguments = [] := h
  simp [reverseLines, ToolCall.withSwitches, SwitchTable.read, ToolCall.onTexts, ToolCall.material,
    Switches.value?]

/-- Lines that are put in the other order twice are in the order that they were in. -/
theorem output_reverseLines_twice (call : ToolCall) (h : call.arguments = [])
    (hended : call.input = [] ∨ call.input.getLast? = some '\n') :
    (reverseLines { call with input := (reverseLines call).output }).output = call.input := by
  have hlines := isLines_wholeLines call.input
  have hback : wholeLines (wholeLines call.input).reverse.flatten = (wholeLines call.input).reverse :=
    (IsLines.of_forall fun line hline =>
      hlines.forall_ended hended line (List.mem_reverse.1 hline)).wholeLines_eq
  rw [output_reverseLines call h]
  refine (output_reverseLines { call with input := (wholeLines call.input).reverse.flatten } h).trans ?_
  rw [hback, List.reverse_reverse, hlines.flatten_eq]

def turnedAround (line : List Char) : List Char := (splitEnd line).1.reverse ++ (splitEnd line).2

theorem turnedAround_ended (text : List Char) : turnedAround (text ++ ['\n']) = text.reverse ++ ['\n'] := by
  simp [turnedAround, splitEnd]

theorem turnedAround_of_notMem {text : List Char} (h : '\n' ∉ text) : turnedAround text = text.reverse := by
  have hlast : text.getLast? ≠ some '\n' := fun hlast => h (List.mem_of_getLast? hlast)
  rw [turnedAround, splitEnd, if_neg hlast, List.append_nil]

theorem IsLines.map_turnedAround {lines : List (List Char)} {s : List Char} (h : IsLines lines s) :
    IsLines (lines.map turnedAround) (lines.flatMap turnedAround) ∧
      (lines.map turnedAround).flatMap turnedAround = s := by
  induction h with
  | nil => exact ⟨.nil, rfl⟩
  | last hne h =>
      have h' := List.mem_reverse.not.2 h
      simp only [List.map_cons, List.map_nil, List.flatMap_singleton, turnedAround_of_notMem h,
        turnedAround_of_notMem h', List.reverse_reverse, and_true]
      exact .last (List.reverse_ne_nil_iff.2 hne) h'
  | cons h _ ih =>
      have h' := List.mem_reverse.not.2 h
      simp only [List.map_cons, List.flatMap_cons, turnedAround_ended, List.reverse_reverse, ih.2,
        List.append_assoc, List.singleton_append, and_true]
      exact .cons h' ih.1

theorem output_reverseLetters (call : ToolCall) (h : call.arguments = []) :
    (reverseLetters call).output = (wholeLines call.input).flatMap turnedAround := by
  obtain ⟨arguments, input, inputIsFile, read⟩ := call
  obtain rfl : arguments = [] := h
  exact List.append_nil _

/-- Lines that are turned around twice are the lines that they were. -/
theorem output_reverseLetters_twice (call : ToolCall) (h : call.arguments = []) :
    (reverseLetters { call with input := (reverseLetters call).output }).output = call.input := by
  obtain ⟨hlines, htwice⟩ := (isLines_wholeLines call.input).map_turnedAround
  rw [output_reverseLetters call h]
  refine (output_reverseLetters
    { call with input := (wholeLines call.input).flatMap turnedAround } h).trans ?_
  rw [hlines.wholeLines_eq, htwice]

/-! ## Words -/

/-- A count of words counts the runs of characters that are not blank. -/
theorem wordCount_eq (s : List Char) :
    wordCount s = ((s.splitOnP isBlankInText).filter (!·.isEmpty)).length := by
  -- a run that the scan is in has been counted
  have hscan : ∀ (s : List Char) (n : Nat) (inWord : Bool),
      (s.foldl countWord (n, inWord)).1 +
        (if inWord && (s.splitOnP isBlankInText).head?.any (!·.isEmpty) then 1 else 0) =
      n + ((s.splitOnP isBlankInText).filter (!·.isEmpty)).length := by
    intro s
    induction s with
    | nil => simp
    | cons c s ih =>
        intro n inWord
        obtain ⟨run, runs, hruns⟩ := List.exists_cons_of_ne_nil (List.splitOnP_ne_nil isBlankInText s)
        have hrest := ih (if !isBlankInText c && !inWord then n + 1 else n) (!isBlankInText c)
        rw [List.foldl_cons, countWord, List.splitOnP_cons_eq_if_modifyHead]
        rw [hruns] at hrest ⊢
        cases hc : isBlankInText c with
        | true =>
          rw [hc] at hrest
          simpa using hrest
        | false =>
          rw [hc] at hrest
          cases inWord <;> cases run <;> simp at hrest ⊢ <;> omega
  have hall := hscan s 0 false
  rw [Bool.false_and, if_neg (by decide), Nat.add_zero, Nat.zero_add] at hall
  exact hall

end CodeBlock.Shell
