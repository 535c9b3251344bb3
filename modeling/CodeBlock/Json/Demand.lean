import CodeBlock.Json.Reader

set_option autoImplicit false

/-! # Reading JSON of a given shape

Here the reader knows what it wants: a string, a list, an object, one of a few words, or a structure
with named fields. JSON of another shape is a **mismatch**. A mismatch lies after a scalar that is
in the wrong place, but before the bracket of a list or an object that is.

All readers take the text that is left and give back what they read with the text after it; `depth`
is one more than how many levels may still be opened. -/

namespace CodeBlock.Json

/-- Fails because the next value is not what was expected. A value that is no JSON fails on its own
    account. -/
def mismatch {α : Type} (expected : String) (depth : Nat) (s : List Char) : Except Failure α :=
  match skipBlanks s with
  | [] => failHere .endInValue []
  | c :: rest =>
      if c = '[' then failHere (.mismatch .sequence expected) (c :: rest)
      else if c = '{' then failHere (.mismatch .map expected) (c :: rest)
      else
        match readValue depth (c :: rest) with
        | .error failure => .error failure
        | .ok (value, rest) =>
            let found := match value with
              | .null => Found.null
              | .bool b => .boolean b
              | .integer i => .integer i
              | .float x => .float x
              | .string text => .string text
              | .array _ => .sequence
              | .object _ => .map
            failHere (.mismatch found expected) rest

/-! ## Scalars -/

/-- Reads a string; `expected` describes it. -/
def demandString (expected : String) (s : List Char) : Except Failure (String × List Char) :=
  match skipBlanks s with
  | '"' :: rest => readString rest
  | s => mismatch expected maxDepth s

/-- Reads a text. -/
def demandText (s : List Char) : Except Failure (String × List Char) := demandString "a string" s

/-- Reads `null`. -/
def demandNull (s : List Char) : Except Failure (List Char) :=
  match skipBlanks s with
  | 'n' :: rest => readWord ['u', 'l', 'l'] rest
  | s => mismatch "unit" maxDepth s

/-- Reads `null` as nothing, and anything else with `read`. -/
def demandOption {α : Type} (read : List Char → Except Failure (α × List Char)) (s : List Char) :
    Except Failure (Option α × List Char) :=
  match skipBlanks s with
  | 'n' :: rest =>
      match readWord ['u', 'l', 'l'] rest with
      | .ok rest => .ok (none, rest)
      | .error failure => .error failure
  | s =>
      match read s with
      | .ok (value, rest) => .ok (some value, rest)
      | .error failure => .error failure

/-! ## Words -/

/-- Reads a string that names one of the choices. -/
def demandName {α : Type} (choices : List (String × α)) (s : List Char) :
    Except Failure (α × List Char) :=
  match demandString "variant identifier" s with
  | .error failure => .error failure
  | .ok (name, rest) =>
      match choices.lookup name with
      | some value => .ok (value, rest)
      | none => failHere (.unknownChoice name (choices.map (·.1))) rest

/-- Reads one of the choices, given by its name or by an object that has the name as its only key
    and `null` under it. -/
def demandChoice {α : Type} (choices : List (String × α)) (depth : Nat) (s : List Char) :
    Except Failure (α × List Char) :=
  match skipBlanks s with
  | [] => failHere .endInValue []
  | '"' :: rest => demandName choices ('"' :: rest)
  | '{' :: rest =>
      if depth ≤ 1 then failNext .tooDeep ('{' :: rest)
      else do
        let (value, rest) ← demandName choices rest
        let rest ← readColon rest
        let rest ← demandNull rest
        match skipBlanks rest with
        | [] => failHere .endInObject []
        | '}' :: rest => .ok (value, rest)
        | rest => failHere .expectedValue rest
  | s => failNext .expectedValue s

/-! ## Lists and objects -/

/-- Reads the elements of a list with `read`, up to its closing bracket; `fuel` bounds their
    number. -/
def demandItems {α : Type} (read : List Char → Except Failure (α × List Char)) (first : Bool) :
    Nat → List Char → Except Failure (List α × List Char)
  | 0, s => failHere .tooDeep s
  | fuel + 1, s => do
      match ← nextItem first s with
      | none => return ([], close s)
      | some s =>
          let (item, rest) ← read s
          let (items, rest) ← demandItems read false fuel rest
          return (item :: items, rest)

/-- Reads a list whose elements `read` reads, given how many levels may be opened in them. -/
def demandList {α : Type} (read : Nat → List Char → Except Failure (α × List Char)) (depth : Nat)
    (s : List Char) : Except Failure (List α × List Char) :=
  match skipBlanks s with
  | '[' :: rest =>
      if depth ≤ 1 then failNext .tooDeep ('[' :: rest)
      else demandItems (read (depth - 1)) true (rest.length + 1) rest
  | s => mismatch "a sequence" depth s

/-- Reads the members of an object, their values with `read`, up to its closing brace; `fuel` bounds
    their number. -/
def demandMembers {α : Type} (read : List Char → Except Failure (α × List Char)) (first : Bool) :
    Nat → List Char → Except Failure (List (String × α) × List Char)
  | 0, s => failHere .tooDeep s
  | fuel + 1, s => do
      match ← nextKey first s with
      | none => return ([], close s)
      | some s =>
          let (key, rest) ← readString s
          let rest ← readColon rest
          let (value, rest) ← read rest
          let (members, rest) ← demandMembers read false fuel rest
          return ((key, value) :: members, rest)

/-- Reads an object whose values `read` reads, given how many levels may be opened in them. -/
def demandObject {α : Type} (read : Nat → List Char → Except Failure (α × List Char)) (depth : Nat)
    (s : List Char) : Except Failure (List (String × α) × List Char) :=
  match skipBlanks s with
  | '{' :: rest =>
      if depth ≤ 1 then failNext .tooDeep ('{' :: rest)
      else do
        let (members, rest) ← demandMembers (read (depth - 1)) true (rest.length + 1) rest
        return (Table.ofEntries members, rest)
  | s => mismatch "a map" depth s

/-! ## Structures

A structure is an object with known keys, or a list of the values of its fields in their order, of
which the last ones may be missing. Keys that are not known are passed over; known ones may come
once. -/

/-- The text after the closing bracket, if that comes next; else the text after the comma, if one
    does: as far as a reader that gives up on a list goes on. -/
def leaveList (s : List Char) : List Char :=
  match skipBlanks s with
  | ']' :: rest => rest
  | ',' :: rest => skipBlanks rest
  | s => s

/-- The text after the closing brace, if that comes next: as far as a reader that gives up on an
    object goes on. -/
def leaveObject (s : List Char) : List Char :=
  match skipBlanks s with
  | '}' :: rest => rest
  | s => s

variable {F S : Type} [DecidableEq F]

/-- Reads the fields of a structure from the elements of a list. -/
def demandFieldItems (read : F → S → List Char → Except Failure (S × List Char)) (first : Bool)
    (state : S) : List F → List Char → Except Failure (S × List Char)
  | [], s =>
      match skipBlanks s with
      | [] => failHere .endInList []
      | ']' :: rest => .ok (state, rest)
      | ',' :: rest =>
          match skipBlanks rest with
          | ']' :: rest => failNext .trailingComma (']' :: rest)
          | rest => failNext .trailingCharacters rest
      | s => failNext .trailingCharacters s
  | field :: fields, s => do
      match ← nextItem first s with
      | none => return (state, close s)
      | some s =>
          let (state, rest) ← read field state s
          demandFieldItems read false state fields rest

/-- Reads the fields of a structure from the members of an object; `seen` are the fields that came
    before, and `fuel` bounds the number of members. -/
def demandFieldMembers (fields : List (String × F))
    (read : F → S → List Char → Except Failure (S × List Char)) (seen : List F) (state : S) :
    Nat → Bool → List Char → Except Failure (S × List Char)
  | 0, _, s => failHere .tooDeep s
  | fuel + 1, first, s => do
      match ← nextKey first s with
      | none => return (state, close s)
      | some s =>
          let (key, rest) ← readString s
          match fields.lookup key with
          | none =>
              let rest ← readColon rest
              let rest ← skipValue rest
              demandFieldMembers fields read seen state fuel false rest
          | some field =>
              if field ∈ seen then failHere (.repeatedField key) (leaveObject rest)
              else
                let rest ← readColon rest
                let (state, rest) ← read field state rest
                demandFieldMembers fields read (field :: seen) state fuel false rest

/-- Reads a structure with the given fields: `read` reads a field into what was read before. -/
def demandStructure (name : String) (fields : List (String × F))
    (read : Nat → F → S → List Char → Except Failure (S × List Char)) (state : S) (depth : Nat)
    (s : List Char) : Except Failure (S × List Char) :=
  match skipBlanks s with
  | '[' :: rest =>
      if depth ≤ 1 then failNext .tooDeep ('[' :: rest)
      else demandFieldItems (read (depth - 1)) true state (fields.map (·.2)) rest
  | '{' :: rest =>
      if depth ≤ 1 then failNext .tooDeep ('{' :: rest)
      else demandFieldMembers fields (read (depth - 1)) [] state (rest.length + 1) true rest
  | s => mismatch ("struct " ++ name) depth s

end CodeBlock.Json
