import CodeBlock.Text.Camel
import CodeBlock.Value.Basic

set_option autoImplicit false

/-! # Shaping values

Field names turn rows into records. A sequence that is to be a record pairs its elements with the
names, in camel case, as far as both lists go; the elements of any other sequence are shaped with
the same names, and become records wherever there are names at all. What stands inside a record
keeps its form, so a shape is decided at the two outermost levels and nowhere else. -/

namespace CodeBlock.Value

mutual

/-- The value with its form decided by the field names. -/
def shaped (names : List String) (asRecord : Bool) : Value → Value
  | .scalar leaf => .scalar leaf
  | .sequence items =>
      if asRecord && !names.isEmpty then .record (zipped names items)
      else .sequence (shapedItems names (!names.isEmpty) items)
  | .record fields => .record (shapedFields fields)

def shapedItems (names : List String) (asRecord : Bool) : List Value → List Value
  | [] => []
  | item :: items => item.shaped names asRecord :: shapedItems names asRecord items

/-- The fields that names and elements make in pairs. -/
def zipped (names : List String) : List Value → List (String × Value)
  | [] => []
  | item :: items =>
      match names with
      | [] => []
      | name :: names => (Text.lowerCamel name, item.shaped [] false) :: zipped names items

def shapedFields : List (String × Value) → List (String × Value)
  | [] => []
  | (label, value) :: fields => (label, value.shaped [] false) :: shapedFields fields

end

end CodeBlock.Value
