import CodeBlock.Number.Binary64

set_option autoImplicit false

/-! # JSON values

A JSON number is a whole number or a finite binary one. An object is the table of its members, in
order. -/

namespace CodeBlock

/-- A JSON value. -/
inductive Json where
  | null
  | bool (value : Bool)
  | integer (value : Int)
  | float (value : Binary64.Finite)
  | string (value : String)
  | array (items : List Json)
  | object (members : List (String × Json))

namespace Json

instance : Inhabited Json := ⟨null⟩

end Json

end CodeBlock
