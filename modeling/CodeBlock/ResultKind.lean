import CodeBlock.Text.Blank

set_option autoImplicit false

/-! # What a run gives back

A block is run either for the **value** of its last expression or for what it prints, its
**output**. -/

namespace CodeBlock

/-- How the result of a block is collected. -/
inductive ResultKind where
  | value
  | output
  deriving DecidableEq, Repr

namespace ResultKind

/-- A block is run for its value unless it says otherwise. -/
instance : Inhabited ResultKind := ⟨value⟩

def word : ResultKind → String
  | value => "value"
  | output => "output"

/-- The kind that a text names, between blanks; or what is wrong with the text. -/
def ofString (s : String) : Except String ResultKind :=
  match String.ofList (Text.trim s.toList) with
  | "value" => .ok value
  | "output" => .ok output
  | other => .error ("expected value or output, got `" ++ other ++ "`")

theorem ofString_word (k : ResultKind) : ofString k.word = .ok k := by cases k <;> rfl

end ResultKind

end CodeBlock
