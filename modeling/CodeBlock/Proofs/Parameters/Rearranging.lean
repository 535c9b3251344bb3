import CodeBlock.Proofs.Json.Objects
import CodeBlock.Proofs.Parameters.Mentions
import Mathlib

set_option autoImplicit false

/-! # Parameters in any order

Parameters that are given as an object are told by its known keys alone. Its members may change places, and
members with other keys may stand among them, whatever JSON is under these keys. -/

namespace CodeBlock.Parameters

open Json

/-! ## Parameters one by one -/

/-- What is said with a parameter. -/
def Field.Content : Field → Type
  | command => Option String
  | resultKind => ResultKind
  | vars => List (String × Json)
  | permissions => List Permission
  | columnNames => List (String × List String)
  | keyword => Option Keyword
  | prologue => Option String
  | epilogue => Option String
  | session => Option String

/-- Reads what is said with a parameter. -/
def readContent (depth : Nat) : ∀ field : Field, List Char → Except Failure (field.Content × List Char)
  | .command => demandOption demandText
  | .resultKind => demandChoice resultKinds depth
  | .vars => demandObject readValue depth
  | .permissions => demandList readPermission depth
  | .columnNames => demandObject (demandList fun _ => demandText) depth
  | .keyword => demandOption (demandChoice keywords depth)
  | .prologue => demandOption demandText
  | .epilogue => demandOption demandText
  | .session => demandOption demandText

/-- The parameters with what is said with one of them. -/
def put (p : Parameters) : ∀ field : Field, field.Content → Parameters
  | .command, x => { p with command := x }
  | .resultKind, x => { p with resultKind := x }
  | .vars, x => { p with vars := x }
  | .permissions, x => { p with permissions := x }
  | .columnNames, x => { p with columnNames := x }
  | .keyword, x => { p with keyword := x }
  | .prologue, x => { p with prologue := x }
  | .epilogue, x => { p with epilogue := x }
  | .session, x => { p with session := x }

/-- Each parameter has a place of its own. -/
theorem putsApart_put : PutsApart put := by
  intro field other hne p x y
  cases field <;> cases other <;> first | rfl | exact absurd rfl hne

theorem isLocal_readPermission (depth : Nat) : IsLocal (readPermission depth) := by
  intro s permission rest h
  obtain ⟨⟨j, behind⟩, hj, hpermission⟩ := exists_of_bind_eq_ok h
  obtain ⟨gap, item, hgap, hitem, rfl⟩ := isLocal_readValue depth hj
  dsimp only at hpermission
  split at hpermission
  · rename_i granted hgranted
    cases hpermission
    refine ⟨gap, item, hgap, ⟨hitem.isJson, fun fuel gap rest _ hgap hrest => ?_⟩, rfl⟩
    rw [readPermission, bind_of_eq_ok (hitem.read_append hgap hrest)]
    simp only [hgranted]
  · cases hpermission

/-- What is said with a parameter is told by the text of its value, and goes to the place of the parameter. -/
theorem readsFields_readField (depth : Nat) : ReadsFields (readContent depth) put (readField depth) where
  isLocal field := by
    cases field with
    | command | prologue | epilogue | session => exact isLocal_demandOption isLocal_demandText
    | resultKind => exact isLocal_demandChoice _ _
    | vars => exact isLocal_demandObject isLocal_readValue _
    | permissions => exact isLocal_demandList isLocal_readPermission _
    | columnNames => exact isLocal_demandObject (isLocal_demandList fun _ => isLocal_demandText) _
    | keyword => exact isLocal_demandOption (isLocal_demandChoice _ _)
  readField_eq field p s := by cases field <;> rfl

/-! ## Parameters as an object -/

/-- Another key than those of the parameters leads to none of them. -/
theorem lookup_fields_eq_none {key : String} (h : key ∉ fields.map (·.1)) : fields.lookup key = .none := by
  rw [List.lookup_eq_none_iff]
  intro field hfield
  rw [bne_iff_ne]
  rintro rfl
  exact h (List.mem_map_of_mem hfield)

theorem ofText_eq_ok_iff {members : List (String × List Char)} {s : List Char} (h : IsObject members s)
    {p : Parameters} :
    ofText s = .ok p ↔ Gathers fields (readContent (maxDepth - 1)) put [] none members p := by
  obtain ⟨before, row, after, hbefore, hafter, hrow, rfl⟩ := h
  have hread : ∀ {q : Parameters} {rest : List Char},
      demandStructure "ExecutionParams" fields readField none maxDepth
          (before ++ '{' :: (row ++ '}' :: after)) = .ok (q, rest) ↔
        Gathers fields (readContent (maxDepth - 1)) put [] none members q ∧ rest = after :=
    demandStructure_eq_ok_iff (by decide) (readsFields_readField _) hbefore hrow
  constructor
  · intro h
    obtain ⟨⟨q, rest⟩, hstructure, hend⟩ := exists_of_bind_eq_ok h
    obtain ⟨-, rfl⟩ := expectEnd_eq_ok_iff.1 hend
    exact (hread.1 hstructure).1
  · intro h
    rw [ofText, bind_of_eq_ok (hread.2 ⟨h, rfl⟩), expectEnd_eq_ok_iff]
    exact ⟨skipBlanks_eq_nil_iff.2 hafter, rfl⟩

/-- What denotes parameters and opens with a brace is an object. -/
theorem exists_isObject {s : List Char} (hs : (skipBlanks s).head? = some '{') {p : Parameters}
    (h : ofText s = .ok p) : ∃ members, IsObject members s := by
  obtain ⟨⟨q, rest⟩, hstructure, hend⟩ := exists_of_bind_eq_ok h
  obtain ⟨hrest, -⟩ := expectEnd_eq_ok_iff.1 hend
  obtain ⟨before, row, members, hbefore, hrow, rfl⟩ :=
    exists_of_demandStructure readsFields_readField hs hstructure
  exact ⟨members, before, row, rest, hbefore, skipBlanks_eq_nil_iff.1 hrest, hrow, rfl⟩

theorem ofString_eq_ok_iff {text : String} {p : Parameters} :
    ofString text = .ok p ↔ ofText text.toList = .ok p := by
  unfold ofString
  cases ofText text.toList <;> simp

/-- Parameters that are given as an object stay the same whatever order its members are in and whatever
    members with other keys are among them. -/
theorem ofString_of_perm {text : String} {p : Parameters} (h : ofString text = .ok p)
    (hobject : (skipBlanks text.toList).head? = some '{') :
    (∃ members, IsObject members text.toList) ∧
      ∀ {members members' more : List (String × List Char)} {text' : String},
        IsObject members text.toList → (∀ member ∈ more, member.1 ∉ fields.map (·.1)) →
        members'.Perm (members ++ more) → IsObject members' text'.toList → ofString text' = .ok p := by
  rw [ofString_eq_ok_iff] at h
  refine ⟨exists_isObject hobject h, fun hmembers hmore hperm hmembers' => ?_⟩
  rw [ofString_eq_ok_iff, ofText_eq_ok_iff hmembers',
    gathers_iff_of_perm putsApart_put (fun member hmem => lookup_fields_eq_none (hmore member hmem)) hperm,
    ← ofText_eq_ok_iff hmembers]
  exact h

/-- Two parameters change places, and two members that are none come among them. -/
theorem ofString_of_perm_allow_cmd :
    ofString "\x7b\"allow\": [\"net\"], \"cmd\": \"deno run\"\x7d" =
        .ok { none with command := some "deno run", permissions := [.bare "net"] } ∧
      ofString "\x7b\"x\":[1e999,\"\\ud800\"],\"cmd\":\"deno run\" ,\"x\":null, \"allow\" : [\"net\"]\x7d" =
        .ok { none with command := some "deno run", permissions := [.bare "net"] } := by
  have h : ofString "\x7b\"allow\": [\"net\"], \"cmd\": \"deno run\"\x7d" =
      .ok { none with command := some "deno run", permissions := [.bare "net"] } := by cbv
  have hmembers : IsObject [("allow", "[\"net\"]".toList), ("cmd", "\"deno run\"".toList)]
      "\x7b\"allow\": [\"net\"], \"cmd\": \"deno run\"\x7d".toList :=
    isObject_iff.2 ⟨[], by cbv, isBlanks_nil⟩
  have hmembers' : IsObject [("x", "[1e999,\"\\ud800\"]".toList), ("cmd", "\"deno run\"".toList),
      ("x", "null".toList), ("allow", "[\"net\"]".toList)]
      "\x7b\"x\":[1e999,\"\\ud800\"],\"cmd\":\"deno run\" ,\"x\":null, \"allow\" : [\"net\"]\x7d".toList :=
    isObject_iff.2 ⟨[], by cbv, isBlanks_nil⟩
  have hunknown : ∀ member ∈ [("x", "[1e999,\"\\ud800\"]".toList), ("x", "null".toList)],
      member.1 ∉ fields.map (·.1) := by decide +kernel
  exact ⟨h, (ofString_of_perm h (by cbv)).2 hmembers hunknown (by decide +kernel) hmembers'⟩

end CodeBlock.Parameters
