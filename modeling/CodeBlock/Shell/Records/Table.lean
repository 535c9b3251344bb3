import CodeBlock.Shell.Records.Value

set_option autoImplicit false

/-! # Tables of values

A table has a value under each of its keys. The order in which a loop goes through the keys is that of
the lists that keys are kept in: one chosen by a sum over the characters, where the key that was looked up
last stands first. Keys that are whole numbers are kept in lists chosen by the number as long as no other
way of looking up is used. -/

namespace CodeBlock.Shell.Records

/-- A table. -/
structure Table where
  /-- The keys by the sums over their characters, each with its value. -/
  byText : Array (List (List Char × Value))
  /-- The numbers that were looked up as such. -/
  byNumber : Array (List Int)
  size : Nat
  /-- Whether the keys stand in the order in which they were looked up as texts. -/
  isOrdered : Bool
  /-- Whether the keys are the numbers from one on, and nothing else was ever looked up. -/
  isRow : Bool

namespace Table

/-- How many lists a table starts with. -/
def firstLists : Nat := 64

def keysPerList : Nat := 12

/-- The table without keys. -/
def empty : Table :=
  ⟨Array.replicate firstLists [], Array.replicate firstLists [], 0, false, false⟩

instance : Inhabited Table := ⟨empty⟩

def sumOf (key : List Char) : Nat :=
  (key.foldl (fun (sum : UInt32) c => (sum ^^^ c.toNat.toUInt32) * 16777619) 2166136261).toNat

def textList (t : Table) (key : List Char) : Nat := sumOf key % t.byText.size

def numberList (t : Table) (n : Int) : Nat := (n % (t.byNumber.size : Int)).toNat

def keyOf (n : Int) : List Char := (toString n).toList

/-- The value under a key. -/
def get? (t : Table) (key : List Char) : Option Value := (t.byText.getD (t.textList key) []).lookup key

/-- Whether there is a key. -/
def contains (t : Table) (key : List Char) : Bool := (t.get? key).isSome

/-- With twice as many lists; those within a list keep their order. -/
def grown (t : Table) : Table :=
  let lists := 2 * t.byText.size
  { t with
    byText := Array.ofFn (n := lists) fun i =>
      (t.byText.getD (i % t.byText.size) []).filter fun (key, _) => sumOf key % lists == i
    byNumber := Array.ofFn (n := lists) fun i =>
      (t.byNumber.getD (i % t.byNumber.size) []).filter fun n => (n % (lists : Int)).toNat == i }

/-- With a value under a new key, in front of its list. -/
def add (t : Table) (key : List Char) (value : Value) : Table :=
  let t := { t with size := t.size + 1 }
  let t := if keysPerList * t.byText.size < t.size then t.grown else t
  { t with byText := t.byText.modify (t.textList key) ((key, value) :: ·) }

/-- With a key in front of its list. -/
def toFront (t : Table) (key : List Char) : Table :=
  match t.get? key with
  | some value =>
      { t with
        byText := t.byText.modify (t.textList key) fun list =>
          (key, value) :: list.filter (·.1 != key) }
  | none => t

/-- With the keys in the order in which the lists of numbers give them to the lists of texts. -/
def ordered (t : Table) : Table :=
  if t.isOrdered then t
  else
    t.byNumber.toList.flatten.foldl (fun t n => t.toFront (keyOf n))
      { t with isOrdered := true, isRow := false }

def numberToFront (t : Table) (n : Int) : Table :=
  { t with byNumber := t.byNumber.modify (t.numberList n) fun list => n :: list.filter (· != n) }

/-- Looks up a text; `make` says whether it becomes a key. -/
def findText (t : Table) (make : Bool) (key : List Char) : Table :=
  if t.size = 0 && !make then t
  else
    let t := t.ordered
    if t.contains key then t.toFront key else if make then t.add key .unset else t

/-- Looks up a number; `make` says whether it becomes a key. -/
def findNumber (t : Table) (make : Bool) (n : Int) : Table :=
  if t.size = 0 && !make then t
  else if t.isRow && 1 ≤ n && n ≤ t.size then t
  else
    let t := { t with isRow := false }
    if (t.byNumber.getD (t.numberList n) []).contains n then t.numberToFront n
    else if t.isOrdered then
      let t := t.findText make (keyOf n)
      if t.contains (keyOf n) then t.numberToFront n else t
    else if make then (t.add (keyOf n) .unset).numberToFront n
    else t

/-- The bounds of the numbers that are looked up as such. -/
def greatestNumber : Int := 2 ^ 63 - 1

def numberKey? : Value → Option Int
  | .number x => x.whole?.filter fun n => -greatestNumber ≤ n && n ≤ greatestNumber
  | _ => none

/-- Looks up a value; `make` says whether it becomes a key, and `write` writes numbers. -/
def find (write : Binary64 → List Char) (t : Table) (make : Bool) (key : Value) : List Char × Table :=
  match numberKey? key with
  | some n => (keyOf n, t.findNumber make n)
  | none => (key.toText write, t.findText make (key.toText write))

/-- With another value under a key that there is. -/
def set (t : Table) (key : List Char) (value : Value) : Table :=
  { t with
    byText := t.byText.modify (t.textList key) fun list =>
      list.map fun (k, v) => if k == key then (k, value) else (k, v) }

/-- Without a key. -/
def erase (t : Table) (key : List Char) : Table :=
  if t.contains key then
    if t.size ≤ 1 then empty
    else
      { t with
        size := t.size - 1
        byText := t.byText.modify (t.textList key) fun list => list.filter (·.1 != key)
        byNumber := t.byNumber.map fun list => list.filter (keyOf · != key) }
  else t

def keys (t : Table) : List (List Char) := t.byText.toList.flatten.map (·.1)

/-- The table with some values under the numbers from one on. -/
def ofList (values : List Value) : Table :=
  if values.isEmpty then empty
  else
    let t := (values.zipIdx 1).foldl (fun t (value, i) =>
      ((t.add (keyOf i) value).numberToFront i)) empty
    { t with isRow := true }

end Table

end CodeBlock.Shell.Records
