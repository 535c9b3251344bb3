import CodeBlock.Parameters.Reader
import CodeBlock.Proofs.Shell.Words

set_option autoImplicit false

/-! # What a command passes on

A command grants permissions by options that are written into it as they are, while the path of the script
is quoted. So the path comes through whatever is in it, but the options come through only if a shell has
nothing to do with any of their characters. Names and values of permissions are not looked at before. -/

namespace CodeBlock

/-! ## Ordinary permissions -/

/-- Whether a shell reads the name and the values of a permission as they stand. -/
def Permission.isOrdinary : Permission → Bool
  | bare name => name.toList.all Shell.isPlain
  | limited name values =>
      name.toList.all Shell.isPlain && values.all fun value => value.toList.all Shell.isPlain

theorem Text.all_intercalate {f : Char → Bool} {separator : List Char} (h : separator.all f)
    (pieces : List (List Char)) :
    (separator.intercalate pieces).all f = pieces.all fun piece => piece.all f := by
  induction pieces with
  | nil => simp
  | cons piece pieces ih =>
      cases pieces with
      | nil => simp
      | cons next pieces =>
          rw [List.intercalate_cons_cons, List.all_append, List.all_append, h, ih, List.all_cons]
          simp

namespace Permission

/-- What the option of a permission has after its first character. -/
def flagRest : Permission → List Char
  | bare name => ['-', 'a', 'l', 'l', 'o', 'w', '-'] ++ name.toList
  | limited name values =>
      ['-', 'a', 'l', 'l', 'o', 'w', '-'] ++ name.toList ++
        '=' :: [','].intercalate (values.map String.toList)

theorem toList_flag (permission : Permission) : permission.flag.toList = '-' :: permission.flagRest := by
  have hstart : "--allow-".toList = '-' :: ['-', 'a', 'l', 'l', 'o', 'w', '-'] := rfl
  have hequals : "=".toList = ['='] := rfl
  have hcomma : ",".toList = [','] := rfl
  cases permission with
  | bare name => rw [flag, String.toList_append, hstart, flagRest, List.cons_append]
  | limited name values =>
      rw [flag, String.toList_append, String.toList_append, String.toList_append, hstart, hequals,
        String.toList_intercalate, hcomma, flagRest, List.cons_append, List.cons_append, List.cons_append,
        List.append_assoc _ ['='], List.singleton_append]

theorem all_flagRest_isPlain (permission : Permission) :
    permission.flagRest.all Shell.isPlain = permission.isOrdinary := by
  have hstart : ['-', 'a', 'l', 'l', 'o', 'w', '-'].all Shell.isPlain := by decide
  have hequals : Shell.isPlain '=' := by decide
  have hcomma : [','].all Shell.isPlain := by decide
  cases permission with
  | bare name => rw [flagRest, List.all_append, hstart, isOrdinary, Bool.true_and]
  | limited name values =>
      rw [flagRest, List.all_append, List.all_append, hstart, List.all_cons, hequals,
        Text.all_intercalate hcomma, List.all_map, isOrdinary, Bool.true_and, Bool.true_and]
      rfl

end Permission

/-! ## The whole command -/

open Shell

/-- Words as they stand and a quoted one, each with a blank before it. -/
def Parameters.argumentText (p : Parameters) (path : String) : List Char :=
  p.permissions.flatMap (fun permission => ' ' :: permission.flag.toList) ++ ' ' :: quotedWord path.toList

/-- Pieces with a blank before each are pieces with a blank between each two, and one before. -/
theorem Text.cons_intercalate (separator : Char) (piece : List Char) (pieces : List (List Char)) :
    separator :: [separator].intercalate (piece :: pieces) =
      (piece :: pieces).flatMap (separator :: ·) := by
  induction pieces generalizing piece with
  | nil => simp
  | cons next pieces ih => simp [List.intercalate_cons_cons, ih next]

/-- Options are written with a blank between each two. -/
theorem Permission.cons_toList_flags (permission : Permission) (permissions : List Permission) :
    ' ' :: (flags (permission :: permissions)).toList =
      (permission :: permissions).flatMap fun permission => ' ' :: permission.flag.toList := by
  have hblank : " ".toList = [' '] := rfl
  rw [flags, String.toList_intercalate, hblank, List.map_cons, List.map_cons, Text.cons_intercalate,
    ← List.map_cons, ← List.map_cons, List.flatMap_map, List.flatMap_map]

/-- A command is the interpreter's with the options of the permissions and the path behind it. -/
theorem Parameters.commandLine_eq (p : Parameters) (settings : Settings) (path : String) :
    p.commandLine settings path = p.interpreter settings ++ String.ofList (p.argumentText path) := by
  rw [commandLine, argumentText]
  apply String.toList_injective
  cases p.permissions with
  | nil => simp [Permission.flags, quotePath]
  | cons permission permissions =>
      have hflags := permission.cons_toList_flags permissions
      have hsome : (Permission.flags (permission :: permissions)).isEmpty = false := by
        refine Bool.eq_false_iff.2 fun hempty => ?_
        rw [String.isEmpty_iff.1 hempty, List.flatMap_cons, permission.toList_flag] at hflags
        cases hflags
      rw [← hflags]
      simp [hsome, quotePath]

/-- Options and a path are read as what they are just if the options are plain. -/
theorem Parameters.wordsFrom_argumentText_iff (p : Parameters) (path : String) :
    wordsFrom .between (p.argumentText path) =
        some (p.permissions.map (fun permission => permission.flag.toList) ++ [path.toList]) ↔
      ∀ permission ∈ p.permissions, permission.isOrdinary := by
  rw [argumentText]
  induction p.permissions with
  | nil =>
      rw [List.flatMap_nil, List.nil_append, wordsFrom_between_blank, wordsFrom_quotedWord]
      simp
  | cons permission permissions ih =>
      -- a blank comes behind the option, whether another option follows or the path
      obtain ⟨rest, hrest⟩ : ∃ rest, permissions.flatMap (fun permission => ' ' :: permission.flag.toList) ++
          ' ' :: quotedWord path.toList = ' ' :: rest := by
        cases permissions <;> exact ⟨_, rfl⟩
      rw [hrest, wordsFrom_between_blank] at ih
      rw [List.flatMap_cons, List.append_assoc, List.cons_append, wordsFrom_between_blank, hrest,
        List.map_cons, List.cons_append, permission.toList_flag,
        wordsFrom_between_eq_some_iff (by decide), ← List.all_eq_true, permission.all_flagRest_isPlain, ih,
        List.forall_mem_cons]

/-- There is no null character in plain options and a path without one. -/
theorem Parameters.null_notMem_argumentText {p : Parameters} {path : String} (hpath : '\x00' ∉ path.toList)
    (h : ∀ permission ∈ p.permissions, permission.isOrdinary) : '\x00' ∉ p.argumentText path := by
  have hflags : ∀ permission ∈ p.permissions, '\x00' ∉ permission.flag.toList := by
    intro permission hmem hnull
    rw [permission.toList_flag, List.mem_cons, or_iff_right (by decide)] at hnull
    have hplain := permission.all_flagRest_isPlain.trans (h permission hmem)
    exact absurd (List.all_eq_true.1 hplain _ hnull) (by decide)
  rw [argumentText, List.mem_append, List.mem_flatMap, List.mem_cons, not_or, not_or]
  refine ⟨?_, by decide, notMem_quotedWord (by decide) (by decide) hpath⟩
  rintro ⟨permission, hmem, hnull⟩
  rw [List.mem_cons, or_iff_right (by decide)] at hnull
  exact hflags permission hmem hnull

/-- What a command has behind the interpreter's is read as the options of the permissions, each as one word
    and in order, and the path just if the permissions are ordinary. -/
theorem Parameters.words?_commandLine_iff (p : Parameters) (settings : Settings) (path : String)
    (hpath : '\x00' ∉ path.toList) :
    ∃ appended : String, p.commandLine settings path = p.interpreter settings ++ appended ∧
      (words? appended = some (p.permissions.map Permission.flag ++ [path]) ↔
        ∀ permission ∈ p.permissions, permission.isOrdinary) := by
  refine ⟨_, p.commandLine_eq settings path, ?_⟩
  have hwords : p.permissions.map Permission.flag ++ [path] =
      (p.permissions.map (fun permission => permission.flag.toList) ++ [path.toList]).map String.ofList := by
    simp
  rw [words?, String.toList_ofList, hwords]
  constructor
  · intro h
    split_ifs at h
    obtain ⟨words, hread, h⟩ := Option.map_eq_some_iff.1 h
    rw [List.map_inj_right fun _ _ => String.ofList_inj.1] at h
    exact (p.wordsFrom_argumentText_iff path).1 (hread.trans (congrArg some h))
  · intro h
    rw [if_neg (null_notMem_argumentText hpath h), (p.wordsFrom_argumentText_iff path).2 h]
    rfl

/-- The permission to read a directory with a blank in its name is read as two words, while the path may have
    blanks and quotes in it. -/
theorem Parameters.words?_commandLine_of_blank :
    (∃ appended : String,
      { none with permissions := [.bare "net"] }.commandLine default "it's a block.ts" =
        "deno run" ++ appended ∧
      words? appended = some ["--allow-net", "it's a block.ts"]) ∧
    ∃ appended : String,
      { none with permissions := [.limited "read" ["/tmp/my dir"]] }.commandLine default "x.ts" =
        "deno run" ++ appended ∧
      words? appended ≠ some ["--allow-read=/tmp/my dir", "x.ts"] := by
  constructor
  · obtain ⟨appended, hcommand, hwords⟩ := words?_commandLine_iff
      { none with permissions := [.bare "net"] } default "it's a block.ts" (by decide)
    exact ⟨appended, hcommand, hwords.2 (by decide)⟩
  · obtain ⟨appended, hcommand, hwords⟩ := words?_commandLine_iff
      { none with permissions := [.limited "read" ["/tmp/my dir"]] } default "x.ts" (by decide)
    exact ⟨appended, hcommand, fun h => absurd (hwords.1 h) (by decide)⟩

example :
    (Parameters.ofString "\x7b\"allow\": [[\"read\", [\"/tmp/my dir\"]]]\x7d").toOption.map (·.permissions) =
      some [.limited "read" ["/tmp/my dir"]] := by
  decide +kernel

example : words? " --allow-read=/tmp/my dir '/tmp/x.ts'" =
    some ["--allow-read=/tmp/my", "dir", "/tmp/x.ts"] := by
  decide

end CodeBlock
