import CodeBlock.Json.Basic
import CodeBlock.Table
import CodeBlock.Value.Basic

set_option autoImplicit false

/-! # Values and JSON

Each JSON value is a value: whole numbers that 64 bits do not hold become floating-point numbers,
and `null` becomes a bare word. The way back makes the bare words `null` and `undefined` into
`null` and any other into a string; a number that is not finite has no JSON form and is `null` too,
and a record becomes an object with each label once. -/

namespace CodeBlock.Value

/-- A whole number, or the floating-point number nearest to it when it is out of range. -/
def ofInt (i : Int) : Scalar :=
  match int64? i with
  | some n => .int n
  | none => .float (if i < 0 then (Binary64.ofNat i.natAbs).neg else Binary64.ofNat i.natAbs)

mutual

/-- The value that a JSON value denotes. -/
def ofJson : Json → Value
  | .null => atom "null"
  | .bool b => .scalar (.bool b)
  | .integer i => .scalar (ofInt i)
  | .float x => .scalar (.float (.finite x))
  | .string s => .scalar (.str s)
  | .array items => .sequence (ofJsonItems items)
  | .object members => .record (ofJsonMembers members)

/-- The elements of an array, as values. -/
def ofJsonItems : List Json → List Value
  | [] => []
  | item :: items => ofJson item :: ofJsonItems items

/-- The members of an object, as fields. -/
def ofJsonMembers : List (String × Json) → List (String × Value)
  | [] => []
  | (key, value) :: members => (key, ofJson value) :: ofJsonMembers members

end

def leafToJson : Scalar → Json
  | .str s => .string s
  | .int i => .integer i.toInt
  | .float (.finite x) => .float x
  | .float _ => .null
  | .bool b => .bool b
  | .atom word => if word = "null" ∨ word = "undefined" then .null else .string word

mutual

def toJson : Value → Json
  | .scalar leaf => leafToJson leaf
  | .sequence items => .array (toJsonItems items)
  | .record fields => .object (Table.ofEntries (toJsonFields fields))

/-- The JSON forms of the elements of a sequence. -/
def toJsonItems : List Value → List Json
  | [] => []
  | item :: items => item.toJson :: toJsonItems items

def toJsonFields : List (String × Value) → List (String × Json)
  | [] => []
  | (label, value) :: fields => (label, value.toJson) :: toJsonFields fields

end

end CodeBlock.Value
