import CodeBlock.Parameters.Reader
import CodeBlock.Proofs.Json.Structures
import CodeBlock.Proofs.Table

set_option autoImplicit false

/-! # Variables as they are mentioned

A text that denotes parameters may mention a variable more than once. The parameters have the table of what
is mentioned: each variable once, where it is mentioned first and with the value that is mentioned last. -/

namespace CodeBlock.Parameters

open Json

/-- Reads one parameter and keeps of it what it mentions of variables. -/
def readMentions (depth : Nat) (field : Field) (mentions : List (String × Json)) (s : List Char) :
    Except Failure (List (String × Json) × List Char) :=
  match field with
  | .vars => demandEntries readValue depth s
  | other => do
      let (_, rest) ← readField depth other none s
      return (mentions, rest)

/-- The variables that a text mentions, each time with its value. -/
def mentions (text : String) : Except Failure (List (String × Json)) :=
  demandStructure "ExecutionParams" fields readMentions [] maxDepth text.toList >>= expectEnd

/-- Where a parameter ends does not depend on those that were read before. -/
theorem follows_readMentions (depth : Nat) :
    Follows (fun (p : Parameters) mentioned => p.vars = Table.ofEntries mentioned) (readField depth)
      (readMentions depth) := by
  intro field p mentioned s q rest hp h
  cases field with
  | vars =>
      obtain ⟨⟨table, _⟩, hread, h⟩ := exists_of_bind_eq_ok h
      cases h
      exact exists_demandEntries hread
  -- the other parameters are read past the variables
  | _ =>
      obtain ⟨⟨x, _⟩, hread, h⟩ := exists_of_bind_eq_ok h
      cases h
      refine ⟨mentioned, ?_, hp⟩
      simp only [readMentions, readField, bind_of_eq_ok hread]
      rfl

/-- A whole text is read if nothing but blanks are left. -/
theorem expectEnd_eq_ok_iff {α : Type} {reading : α × List Char} {a : α} :
    expectEnd reading = .ok a ↔ skipBlanks reading.2 = [] ∧ reading.1 = a := by
  unfold expectEnd
  cases skipBlanks reading.2 with
  | nil => simp
  | cons c rest => simp [failNext]

theorem exists_mentions {text : String} {p : Parameters} (h : ofString text = .ok p) :
    ∃ mentioned, mentions text = .ok mentioned ∧ p.vars = Table.ofEntries mentioned := by
  unfold ofString at h
  cases hread : ofText text.toList with
  | error failure =>
      rw [hread] at h
      cases h
  | ok q =>
      rw [hread] at h
      cases h
      obtain ⟨⟨p, rest⟩, hstructure, hend⟩ := exists_of_bind_eq_ok hread
      have hnone : none.vars = Table.ofEntries [] := rfl
      obtain ⟨mentioned, hmentioned, hvars⟩ := exists_demandStructure follows_readMentions hnone hstructure
      obtain ⟨hrest, rfl⟩ := expectEnd_eq_ok_iff.1 hend
      refine ⟨mentioned, ?_, hvars⟩
      rw [mentions, bind_of_eq_ok hmentioned, expectEnd_eq_ok_iff]
      exact ⟨hrest, rfl⟩

end CodeBlock.Parameters
