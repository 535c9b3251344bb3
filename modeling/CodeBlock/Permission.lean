import CodeBlock.Text.Blank
import CodeBlock.Text.Split

set_option autoImplicit false

/-! # Permissions

A block is granted capabilities of the interpreter, each of them as a whole or only for some values,
such as the paths that may be read. Which capabilities exist is the interpreter's business. -/

namespace CodeBlock

/-- A granted capability. -/
inductive Permission where
  | bare (name : String)
  | limited (name : String) (values : List String)
  deriving DecidableEq, Repr

namespace Permission

/-- The option that grants the permission. -/
def flag : Permission → String
  | bare name => "--allow-" ++ name
  | limited name values => "--allow-" ++ name ++ "=" ++ String.intercalate "," values

/-- The options that grant all the permissions, in order, with a space between each two. -/
def flags (permissions : List Permission) : String :=
  String.intercalate " " (permissions.map flag)

/-- The permission that a text such as `net` or `read=/tmp,/var` grants; or what is wrong with
    it. -/
def ofString (text : String) : Except String Permission :=
  let s := Text.trim text.toList
  match Text.splitOnce '=' s with
  | some ([], _) => .error ("missing capability name in `" ++ String.ofList s ++ "`")
  | some (name, values) =>
      .ok (.limited (String.ofList name)
        (((Text.splitAll ',' values).filter fun v => !v.isEmpty).map String.ofList))
  | none => if s.isEmpty then .error "empty capability" else .ok (.bare (String.ofList s))

end Permission

end CodeBlock
