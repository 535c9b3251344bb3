import CodeBlock.Json.Demand
import CodeBlock.Parameters.Basic

set_option autoImplicit false

/-! # Reading parameters

Parameters are given as JSON: an object with a key for each parameter, or a list of their values in
a fixed order. A permission is a name, or a list of a name and the values that it is limited to;
values that are no strings are taken as the JSON that they are. -/

namespace CodeBlock

/-- The permission that a JSON value denotes. -/
def Permission.ofJson? : Json → Option Permission
  | .string name => some (.bare name)
  | .array [.string name, .array values] =>
      some (.limited name (values.map fun
        | .string s => s
        | other => other.compact))
  | _ => none

namespace Parameters

/-- The parameters by name. -/
inductive Field where
  | command
  | resultKind
  | vars
  | permissions
  | columnNames
  | keyword
  | prologue
  | epilogue
  | session
  deriving DecidableEq, Repr

/-- The keys of the parameters, in the order of their values in a list. -/
def fields : List (String × Field) :=
  [("cmd", .command), ("result-type", .resultKind), ("var", .vars), ("allow", .permissions),
    ("colname-names", .columnNames), ("prefix", .keyword), ("prologue", .prologue),
    ("epilogue", .epilogue), ("session", .session)]

open Json

/-- Reads a permission. One that has neither form is only noticed once it is read, and then the
    list around it is left. -/
def readPermission (depth : Nat) (s : List Char) : Except Failure (Permission × List Char) := do
  let (value, rest) ← readValue depth s
  match Permission.ofJson? value with
  | some permission => .ok (permission, rest)
  | .none => failHere (.noForm "Permission") (leaveList rest)

def resultKinds : List (String × ResultKind) := [("value", .value), ("output", .output)]

def keywords : List (String × Keyword) :=
  [("const", .constWord), ("let", .letWord), ("var", .varWord)]

/-- Reads one parameter into those that were read before. -/
def readField (depth : Nat) (field : Field) (p : Parameters) (s : List Char) :
    Except Failure (Parameters × List Char) :=
  match field with
  | .command => do
      let (x, rest) ← demandOption demandText s
      return ({ p with command := x }, rest)
  | .resultKind => do
      let (x, rest) ← demandChoice resultKinds depth s
      return ({ p with resultKind := x }, rest)
  | .vars => do
      let (x, rest) ← demandObject readValue depth s
      return ({ p with vars := x }, rest)
  | .permissions => do
      let (x, rest) ← demandList readPermission depth s
      return ({ p with permissions := x }, rest)
  | .columnNames => do
      let (x, rest) ← demandObject (demandList fun _ => demandText) depth s
      return ({ p with columnNames := x }, rest)
  | .keyword => do
      let (x, rest) ← demandOption (demandChoice keywords depth) s
      return ({ p with keyword := x }, rest)
  | .prologue => do
      let (x, rest) ← demandOption demandText s
      return ({ p with prologue := x }, rest)
  | .epilogue => do
      let (x, rest) ← demandOption demandText s
      return ({ p with epilogue := x }, rest)
  | .session => do
      let (x, rest) ← demandOption demandText s
      return ({ p with session := x }, rest)

/-- The parameters that a text denotes; or why it denotes none. -/
def ofText (s : List Char) : Except Failure Parameters :=
  demandStructure "ExecutionParams" fields readField none maxDepth s >>= expectEnd

/-- The parameters that a text denotes; or the fault that it denotes none. -/
def ofString (text : String) : Except Fault Parameters :=
  match ofText text.toList with
  | .ok p => .ok p
  | .error failure => .error (.invalidParameter "params" (failure.message text.toList))

end Parameters

end CodeBlock
