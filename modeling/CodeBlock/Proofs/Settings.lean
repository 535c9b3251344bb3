import CodeBlock.CommandLine
import CodeBlock.Proofs.Table
import CodeBlock.Proofs.Text.Classes
import Mathlib.Data.List.ReduceOption

set_option autoImplicit false

/-! # Layers of settings

A setting is what the environment says, if it is one of those that the environment may set; else what the
last line of the file says that assigns it; else its default. All layers go into one table, the lower ones
first, so that what is put last is found. The command that starts the interpreter is the first one that is
more than blanks of those that are given, and there is always one. -/

namespace CodeBlock

namespace Settings

/-! ## Lines of a file -/

/-- The lines of a file that are text, up to the first one that is not. -/
def textLines (bytes : List UInt8) : List (List Char) :=
  (((bytes.splitOn 10).map Text.ofBytes?).takeWhile Option.isSome).reduceOption

/-- Whether a line assigns a value to a key: they are the trimmed texts before and after its first equals
    sign. A line whose first character that is no blank is a `#` assigns nothing. -/
def Assigns (line : List Char) (key value : String) : Prop :=
  line.find? (fun c => !Text.isBlank c) ≠ some '#' ∧
    ∃ before after, line = before ++ '=' :: after ∧ '=' ∉ before ∧
      key = String.ofList (Text.trim before) ∧ value = String.ofList (Text.trim after)

/-- Whether the last one of some lines that assigns a key assigns a value to it, or, without a value, whether
    none of them does. -/
def LastAssigned (lines : List (List Char)) (key : String) : Option String → Prop
  | some value => ∃ earlier line later, lines = earlier ++ line :: later ∧ Assigns line key value ∧
      ∀ l ∈ later, ∀ v, ¬ Assigns l key v
  | none => ∀ l ∈ lines, ∀ v, ¬ Assigns l key v

/-- A line that starts with `#` assigns nothing. -/
theorem assignment?_of_comment {line : List Char}
    (h : line.find? (fun c => !Text.isBlank c) = some '#') : assignment? line = none := by
  rw [← Text.head?_trim] at h
  obtain ⟨rest, hrest⟩ := List.head?_eq_some_iff.1 h
  rw [assignment?, hrest]
  rfl

/-- Any other line assigns what stands around its first equals sign, if it has one. -/
theorem assignment?_of_ne_comment {line : List Char}
    (h : line.find? (fun c => !Text.isBlank c) ≠ some '#') :
    assignment? line = (Text.splitOnce '=' line).map fun (before, after) =>
      (String.ofList (Text.trim before), String.ofList (Text.trim after)) := by
  have htrimmed : assignment? line = (Text.splitOnce '=' (Text.trim line)).map fun (before, after) =>
      (String.ofList (Text.trim before), String.ofList (Text.trim after)) := by
    rw [assignment?]
    split
    · rename_i rest hrest
      rw [← Text.head?_trim, hrest] at h
      exact absurd rfl h
    · rfl
  rw [htrimmed]
  cases hsplit : Text.splitOnce '=' line with
  | none =>
      -- trimming brings in no equals sign
      have hnone : '=' ∉ Text.trim line := fun hmem =>
        Text.splitOnce_eq_none_iff.1 hsplit (Text.mem_of_mem_trim hmem)
      rw [Text.splitOnce_eq_none_iff.2 hnone]
  | some parts =>
      obtain ⟨before, after⟩ := parts
      have hline := Text.eq_of_splitOnce hsplit
      have hbefore : '=' ∉ Text.trimStart before := fun hmem =>
        Text.notMem_of_splitOnce hsplit ((List.dropWhile_sublist _).subset hmem)
      -- the equals sign is no blank, so each side of it is trimmed at its far end
      have hequals : Text.isBlank '=' = false := by decide
      rw [hline, Text.trim_append_cons hequals, Text.splitOnce_append hbefore]
      simp [Text.trim_trimStart, Text.trim_trimEnd]

theorem assignment?_eq_some_iff {line : List Char} {key value : String} :
    assignment? line = some (key, value) ↔ Assigns line key value := by
  by_cases hcomment : line.find? (fun c => !Text.isBlank c) = some '#'
  · rw [assignment?_of_comment hcomment]
    exact ⟨(nomatch ·), fun h => absurd hcomment h.1⟩
  · rw [assignment?_of_ne_comment hcomment, Option.map_eq_some_iff]
    constructor
    · rintro ⟨⟨before, after⟩, hsplit, heq⟩
      obtain ⟨rfl, rfl⟩ := Prod.mk.inj heq
      have hbefore := Text.notMem_of_splitOnce hsplit
      exact ⟨hcomment, before, after, Text.eq_of_splitOnce hsplit, hbefore, rfl, rfl⟩
    · rintro ⟨-, before, after, rfl, hbefore, rfl, rfl⟩
      exact ⟨(before, after), Text.splitOnce_append hbefore after, rfl⟩

theorem LastAssigned.append {lines : List (List Char)} {key : String} {value : Option String}
    (h : LastAssigned lines key value) {line : List Char} (hline : ∀ v, ¬ Assigns line key v) :
    LastAssigned (lines ++ [line]) key value := by
  cases value with
  | none =>
      intro l hl
      rcases List.mem_append.1 hl with hl | hl
      · exact h l hl
      · obtain rfl := List.mem_singleton.1 hl
        exact hline
  | some value =>
      obtain ⟨earlier, assigning, later, rfl, hassigns, hlater⟩ := h
      refine ⟨earlier, assigning, later ++ [line], by simp, hassigns, fun l hl => ?_⟩
      rcases List.mem_append.1 hl with hl | hl
      · exact hlater l hl
      · obtain rfl := List.mem_singleton.1 hl
        exact hline

/-- The last entry under a key comes from the last line that assigns the key. -/
theorem lastAssigned_last? (lines : List (List Char)) (key : String) :
    LastAssigned lines key (Table.last? key (lines.filterMap assignment?)) := by
  -- from the end of the lines, since the last line counts
  induction lines using List.reverseRecOn with
  | nil => exact fun l hl => absurd hl List.not_mem_nil
  | append_singleton lines line ih =>
      rw [List.filterMap_append, Table.last?_append]
      cases hline : assignment? line with
      | none =>
          have hnone : [line].filterMap assignment? = [] := by simp [hline]
          rw [hnone]
          exact ih.append fun v hv => by
            rw [assignment?_eq_some_iff.2 hv] at hline
            cases hline
      | some entry =>
          have hsome : [line].filterMap assignment? = [entry] := by simp [hline]
          obtain ⟨other, value⟩ := entry
          rw [hsome]
          by_cases hkey : other = key
          · subst hkey
            have hlast : Table.last? other [(other, value)] = some value := by simp [Table.last?, Table.get?]
            rw [hlast]
            refine ⟨lines, line, [], rfl, assignment?_eq_some_iff.1 hline, ?_⟩
            exact fun l hl => absurd hl List.not_mem_nil
          · have hlast : Table.last? key [(other, value)] = none := by simp [Table.last?, Table.get?, hkey]
            rw [hlast]
            exact ih.append fun v hv => by
              rw [assignment?_eq_some_iff.2 hv] at hline
              exact hkey (congrArg Prod.fst (Option.some.inj hline)).symm

/-! ## Lines that can be read -/

/-- The lines of a file are what stands between its line ends, but for an empty text behind the last one. -/
theorem splitOn_eq_linesOf (bytes : List UInt8) :
    bytes.splitOn 10 = linesOf bytes ∨ bytes.splitOn 10 = linesOf bytes ++ [[]] := by
  induction bytes with
  | nil => exact .inr rfl
  | cons b bytes ih =>
      rw [List.splitOn_cons_eq_if_modifyHead, linesOf]
      by_cases hb : b = 10
      · simpa [hb] using ih
      · rw [if_neg (by simpa using hb), if_neg hb]
        rcases ih with ih | ih
        · cases hlines : linesOf bytes with
          | nil => exact absurd (ih.trans hlines) (List.splitOn_ne_nil 10 bytes)
          | cons line lines =>
              rw [ih, hlines]
              exact .inl rfl
        · rw [ih]
          cases linesOf bytes with
          | nil => exact .inl rfl
          | cons line lines => exact .inr rfl

/-- Reading stops at the first line that is no text. -/
theorem readableLines_eq (lines : List (List UInt8)) :
    readableLines lines = ((lines.map Text.ofBytes?).takeWhile Option.isSome).reduceOption := by
  induction lines with
  | nil => rfl
  | cons line lines ih =>
      rw [readableLines]
      cases hline : Text.ofBytes? line with
      | none => simp [hline]
      | some s => simp [hline, ih]

/-- An empty line at the end assigns nothing. -/
theorem filterMap_readableLines_append (lines : List (List UInt8)) :
    (readableLines (lines ++ [[]])).filterMap assignment? =
      (readableLines lines).filterMap assignment? := by
  induction lines with
  | nil => rfl
  | cons line lines ih =>
      rw [List.cons_append, readableLines, readableLines]
      cases Text.ofBytes? line with
      | none => rfl
      | some s => simp [List.filterMap_cons, ih]

theorem filterMap_readableLines (bytes : List UInt8) :
    (readableLines (linesOf bytes)).filterMap assignment? = (textLines bytes).filterMap assignment? := by
  rw [textLines, ← readableLines_eq]
  rcases splitOn_eq_linesOf bytes with hlines | hlines
  · rw [hlines]
  · rw [hlines, filterMap_readableLines_append]

/-! ## Layers -/

/-- Settings that are put one after the other. -/
theorem get?_foldl_set (settings : Settings) (entries : List (String × String)) (key : String) :
    (entries.foldl (fun settings (key, value) => settings.set key value) settings).get? key =
      (Table.last? key entries).or (settings.get? key) := by
  have hentries : (entries.foldl (fun settings (key, value) => settings.set key value) settings).entries =
      entries.foldl (fun table entry => Table.put entry.1 entry.2 table) settings.entries := by
    induction entries generalizing settings with
    | nil => rfl
    | cons entry entries ih => exact ih (settings.set entry.1 entry.2)
  rw [get?, hentries, Table.get?_foldl_put, get?]

theorem exists_lastAssigned_withFile (settings : Settings) (bytes : List UInt8) (key : String) :
    ∃ value, LastAssigned (textLines bytes) key value ∧
      (settings.withFile bytes).get? key = value.or (settings.get? key) := by
  refine ⟨_, lastAssigned_last? (textLines bytes) key, ?_⟩
  rw [withFile, get?_foldl_set, filterMap_readableLines]

theorem get?_withVariables (settings : Settings) (vars : List (String × String)) (key : String) :
    (settings.withVariables vars).get? key =
      (if keyStart.toList <+: key.toList then Table.last? key vars else none).or (settings.get? key) := by
  have hfiltered : Table.last? key (vars.filter fun (key, _) => keyStart.toList.isPrefixOf key.toList) =
      if keyStart.toList.isPrefixOf key.toList then Table.last? key vars else none := by
    rw [Table.last?, ← List.filter_reverse]
    exact Table.get?_filter (fun key => keyStart.toList.isPrefixOf key.toList) key vars.reverse
  rw [withVariables, get?_foldl_set, hfiltered]
  simp

theorem exists_lastAssigned_load (file : Option (List UInt8)) (vars : List (String × String)) (key : String) :
    ∃ value, LastAssigned ((file.map textLines).getD []) key value ∧
      (load file vars).get? key =
        (if keyStart.toList <+: key.toList then Table.last? key vars else none).or
          (value.or (default.get? key)) := by
  rw [load, get?_withVariables]
  cases file with
  | none => exact ⟨none, fun l hl => absurd hl List.not_mem_nil, rfl⟩
  | some bytes =>
      obtain ⟨value, hvalue, hget⟩ := exists_lastAssigned_withFile default bytes key
      exact ⟨value, hvalue, by rw [ofFile, hget]⟩

/-! ## The command of the interpreter -/

theorem isPresent_iff {s : String} : isPresent s = true ↔ ∃ c ∈ s.toList, Text.isBlank c = false := by
  rw [isPresent, Bool.not_eq_true', List.isEmpty_eq_false_iff, ne_eq, Text.trim_eq_nil_iff]
  simp

/-- Whether a text is the first one of some texts that is more than blanks. -/
def IsFirstPresent (texts : List String) (s : String) : Prop :=
  ∃ earlier later, texts = earlier ++ s :: later ∧ (∃ c ∈ s.toList, Text.isBlank c = false) ∧
    ∀ t ∈ earlier, ∀ c ∈ t.toList, Text.isBlank c = true

theorem isFirstPresent_iff {texts : List String} {s : String} :
    IsFirstPresent texts s ↔ texts.find? isPresent = some s := by
  have hblank (t : String) : (!isPresent t) = true ↔ ∀ c ∈ t.toList, Text.isBlank c = true := by
    rw [Bool.not_eq_true', ← Bool.not_eq_true, isPresent_iff]
    simp
  simp only [IsFirstPresent, List.find?_eq_some_iff_append, isPresent_iff, hblank]
  constructor
  · rintro ⟨earlier, later, htexts, hs, hearlier⟩
    exact ⟨hs, earlier, later, htexts, hearlier⟩
  · rintro ⟨hs, earlier, later, htexts, hearlier⟩
    exact ⟨earlier, later, htexts, hs, hearlier⟩

/-- The first present one of some texts, the first of which may be missing. -/
theorem find?_reduceOption_cons (text : Option String) (texts : List (Option String)) :
    (text :: texts).reduceOption.find? isPresent =
      (text.filter isPresent).or (texts.reduceOption.find? isPresent) := by
  cases text with
  | none => rfl
  | some s =>
      rw [List.reduceOption_cons_of_some, List.find?_cons]
      cases h : isPresent s <;> simp [Option.filter, h]

/-- The commands that start the interpreter, the first choice first: the block's own, that of the settings,
    the one that runs the settings' program unless that is blank, and the built-in one. -/
def interpreterChoices (p : Parameters) (settings : Settings) : List String :=
  [p.command, settings.get? commandKey,
    ((settings.get? binaryKey).filter isPresent).map (· ++ " run"), some "deno run"].reduceOption

theorem isFirstPresent_interpreter (p : Parameters) (settings : Settings) :
    IsFirstPresent (interpreterChoices p settings) (p.interpreter settings) := by
  have hrun (program : String) : isPresent (program ++ " run") = true :=
    isPresent_iff.2 ⟨'r', by simp, by decide⟩
  -- with a subcommand behind it, the program is present if it was before
  have hprogram : (((settings.get? binaryKey).filter isPresent).map (· ++ " run")).filter isPresent =
      ((settings.get? binaryKey).filter isPresent).map (· ++ " run") := by
    cases (settings.get? binaryKey).filter isPresent <;> simp [hrun]
  have hcommand : (((settings.get? binaryKey).filter isPresent).map (· ++ " run")).or (some "deno run") =
      some (settings.binary ++ " run") := by
    rw [binary, getPresent?]
    cases (settings.get? binaryKey).filter isPresent <;> rfl
  rw [isFirstPresent_iff]
  calc (interpreterChoices p settings).find? isPresent
      = (p.command.filter isPresent).or (((settings.get? commandKey).filter isPresent).or
          ((((settings.get? binaryKey).filter isPresent).map (· ++ " run")).or (some "deno run"))) := by
        have hbuiltIn : [some "deno run"].reduceOption.find? isPresent = some "deno run" := by decide
        rw [interpreterChoices, find?_reduceOption_cons, find?_reduceOption_cons, find?_reduceOption_cons,
          hprogram, hbuiltIn]
    _ = (p.command.filter isPresent).or (some settings.command) := by
        rw [hcommand, command, getPresent?, Option.or_some]
    _ = some (p.interpreter settings) := by rw [Option.or_some, Parameters.interpreter]

/-- A setting is what the variables say last, if it is one that they may set; else what the last line of the
    file says that assigns it; else its default. The command of the interpreter is never blank, and it is
    the first of its choices that is not. -/
theorem load_eq_layers (file : Option (List UInt8)) (vars : List (String × String)) :
    (∀ key, ∃ value, LastAssigned ((file.map textLines).getD []) key value ∧
      (load file vars).get? key =
        (if keyStart.toList <+: key.toList then Table.last? key vars else none).or
          (value.or (default.get? key))) ∧
    ∀ p : Parameters, (∃ c ∈ (p.interpreter (load file vars)).toList, Text.isBlank c = false) ∧
      IsFirstPresent (interpreterChoices p (load file vars)) (p.interpreter (load file vars)) := by
  refine ⟨exists_lastAssigned_load file vars, fun p => ?_⟩
  have hfirst := isFirstPresent_interpreter p (load file vars)
  exact ⟨isPresent_iff.1 (List.find?_some (isFirstPresent_iff.1 hfirst)), hfirst⟩

/-- A program that is blank is not run: `run` behind it would not be blank, but is not the command. -/
theorem not_isFirstPresent_of_blank_binary :
    ¬ IsFirstPresent
      [Parameters.none.command, (load none [(binaryKey, "")]).get? commandKey,
        ((load none [(binaryKey, "")]).get? binaryKey).map (· ++ " run"), some "deno run"].reduceOption
      (Parameters.none.interpreter (load none [(binaryKey, "")])) := by
  rw [isFirstPresent_iff]
  decide

end Settings

end CodeBlock
