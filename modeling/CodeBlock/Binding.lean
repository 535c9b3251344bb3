import CodeBlock.Text.Blank
import CodeBlock.Value.Literal

set_option autoImplicit false

/-! # Bindings

A binding is a variable that a script declares before its body: a name and a value whose form is
decided once, when the binding is made. -/

namespace CodeBlock

/-- The word that introduces a declaration. -/
inductive Keyword where
  | constWord
  | letWord
  | varWord
  deriving DecidableEq, Repr

namespace Keyword

/-- Variables that nothing is said about can be assigned to. -/
instance : Inhabited Keyword := ⟨letWord⟩

def word : Keyword → String
  | constWord => "const"
  | letWord => "let"
  | varWord => "var"

/-- The keyword that a text names, between blanks; or what is wrong with the text. -/
def ofString (s : String) : Except String Keyword :=
  match String.ofList (Text.trim s.toList) with
  | "const" => .ok constWord
  | "let" => .ok letWord
  | "var" => .ok varWord
  | other => .error ("expected const, let or var, got `" ++ other ++ "`")

theorem ofString_word (k : Keyword) : ofString k.word = .ok k := by cases k <;> rfl

end Keyword

/-- A variable with its value. -/
structure Binding where
  name : String
  value : Value

namespace Binding

/-- The binding of a name to a value, which is a record if there are field names for it. -/
def of (name : String) (value : Value) (fieldNames : List String) : Binding :=
  ⟨name, value.shaped fieldNames (!fieldNames.isEmpty)⟩

def declaration (keyword : Keyword) (b : Binding) : String :=
  keyword.word ++ " " ++ b.name ++ " = " ++ b.value.literal ++ ";"

end Binding

end CodeBlock
