import CodeBlock.Number.Binary64

set_option autoImplicit false

/-! # Values

What a variable is bound to and what a run gives back. A leaf is a text, a number, a truth value or
a bare word such as `null`; leaves stand in sequences and in records. A record is a list of labelled
fields in order and no map: a label may stand in it twice. -/

namespace CodeBlock

/-- A leaf value. -/
inductive Scalar where
  | str (text : String)
  | int (value : Int64)
  | float (value : Binary64)
  | bool (value : Bool)
  /-- A bare word, which is written as it is. -/
  | atom (word : String)
  deriving DecidableEq

/-- A value of any nesting. -/
inductive Value where
  | scalar (leaf : Scalar)
  | sequence (items : List Value)
  | record (fields : List (String × Value))

namespace Value

instance : Inhabited Value := ⟨sequence []⟩

/-- A bare word. -/
def atom (word : String) : Value := scalar (.atom word)

/-- The 64-bit whole number that an integer is, if it is in range. -/
def int64? (i : Int) : Option Int64 :=
  if -2 ^ 63 ≤ i ∧ i < 2 ^ 63 then some (Int64.ofInt i) else none

end Value

end CodeBlock
