import CodeBlock.Binding
import CodeBlock.Fault
import CodeBlock.Permission
import CodeBlock.ResultKind
import CodeBlock.Value.Json

set_option autoImplicit false

/-! # The parameters of a block

What a block says about how it is to be run. Nothing has to be said: each parameter has a value that
stands for its absence. -/

namespace CodeBlock

/-- The parameters of a block. -/
structure Parameters where
  /-- The interpreter and its options. -/
  command : Option String
  /-- What the run is for. -/
  resultKind : ResultKind
  /-- The variables to declare, in order, each name once. -/
  vars : List (String × Json)
  permissions : List Permission
  /-- Field names by variable, each variable once. -/
  columnNames : List (String × List String)
  /-- The word that introduces the declarations. -/
  keyword : Option Keyword
  /-- Code between the declarations and the body. -/
  prologue : Option String
  /-- Code after the body. -/
  epilogue : Option String
  /-- The session to run in. -/
  session : Option String

namespace Parameters

/-- The parameters of a block that says nothing. -/
def none : Parameters :=
  ⟨.none, .value, [], [], [], .none, .none, .none, .none⟩

instance : Inhabited Parameters := ⟨none⟩

/-- Accepts the parameters unless they name a session: there are none. A blank name and the word
    `none` say that no session is wanted. -/
def validate (p : Parameters) : Except Fault Unit :=
  match p.session with
  | .none => .ok ()
  | some session =>
      let name := String.ofList (Text.trim session.toList)
      if name = "" ∨ name = "none" then .ok () else .error (.sessionUnsupported name)

/-- The field names of a variable; none when nothing is said about it. -/
def fieldNames (p : Parameters) (variableName : String) : List String :=
  (Table.get? variableName p.columnNames).getD []

/-- The bindings that the script declares, in order. -/
def bindings (p : Parameters) : List Binding :=
  p.vars.map fun (name, value) => Binding.of name (Value.ofJson value) (p.fieldNames name)

theorem map_name_bindings (p : Parameters) :
    p.bindings.map Binding.name = p.vars.map (·.1) := by
  simp [bindings, Binding.of, Function.comp_def]

end Parameters

end CodeBlock
