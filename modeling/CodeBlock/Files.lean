import CodeBlock.Text.Split
import CodeBlock.Text.Utf8

set_option autoImplicit false

/-! # Files

A tree of files and directories, as far as a run can see it. A place in it is the list of the names on
the way from the root; a path is a text that leads there, from the root or from the working
directory. -/

namespace CodeBlock

/-- Why a file cannot be used. -/
inductive FileError where
  | notFound
  | notDirectory
  | isDirectory
  | notText
  | nameTooLong
  | zeroInName
  deriving DecidableEq, Repr

/-- The wording of an error. -/
def FileError.message : FileError → String
  | notFound => "No such file or directory (os error 2)"
  | notDirectory => "Not a directory (os error 20)"
  | isDirectory => "Is a directory (os error 21)"
  | notText => "stream did not contain valid UTF-8"
  | nameTooLong => "File name too long (os error 36)"
  | zeroInName => "file name contained an unexpected NUL byte"

/-- The names on the way from the root. -/
abbrev FilePlace := List String

/-- Files and directories. -/
structure Files where
  /-- The files with what they hold. -/
  files : List (FilePlace × List UInt8)
  /-- The directories that are there even if they are empty. -/
  directories : List FilePlace
  /-- Where paths start that do not start at the root. -/
  working : FilePlace

namespace Files

/-- What the file at a place holds. -/
def content? (f : Files) (place : FilePlace) : Option (List UInt8) :=
  (f.files.find? fun entry => entry.1 == place).map (·.2)

def isDirectory (f : Files) (place : FilePlace) : Bool :=
  place.isEmpty || f.directories.any (place.isPrefixOf ·) ||
    f.files.any fun entry => entry.1 != place && place.isPrefixOf entry.1

/-- How many bytes a name may have. -/
def nameLimit : Nat := 255

/-- How many bytes a path may have. -/
def pathLimit : Nat := 4095

/-- The place to which some names lead from a place; the last one need not be there. -/
def follow (f : Files) (place : FilePlace) : List String → Except FileError FilePlace
  | [] => .ok place
  | name :: names =>
      if f.isDirectory place then
        if name = "" ∨ name = "." then f.follow place names
        else if name = ".." then f.follow place.dropLast names
        else if nameLimit < name.utf8ByteSize then .error .nameTooLong
        else f.follow (place ++ [name]) names
      else if (f.content? place).isSome then .error .notDirectory
      else .error .notFound

/-- The place that a path leads to. -/
def locate (f : Files) (path : String) : Except FileError FilePlace :=
  if path.contains '\x00' then .error .zeroInName
  else if path = "" then .error .notFound
  else if pathLimit < path.utf8ByteSize then .error .nameTooLong
  else
    let names := (Text.splitAll '/' path.toList).map String.ofList
    f.follow (if path.toList.head? = some '/' then [] else f.working) names

/-- What the file at the end of a path holds. -/
def read (f : Files) (path : String) : Except FileError (List UInt8) := do
  let place ← f.locate path
  if f.isDirectory place then .error .isDirectory
  else
    match f.content? place with
    | some bytes => .ok bytes
    | none => .error .notFound

/-- The text that the file at the end of a path holds. -/
def readText (f : Files) (path : String) : Except FileError String := do
  let bytes ← f.read path
  match Text.ofBytes? bytes with
  | some s => .ok (String.ofList s)
  | none => .error .notText

/-- The files with the file at a place holding some bytes. -/
def write (f : Files) (place : FilePlace) (bytes : List UInt8) : Files :=
  { f with files := (place, bytes) :: f.files.filter fun entry => entry.1 != place }

/-- The files without the file at a place. -/
def remove (f : Files) (place : FilePlace) : Files :=
  { f with files := f.files.filter fun entry => entry.1 != place }

def makeDirectory (f : Files) (place : FilePlace) : Files :=
  { f with directories := place :: f.directories }

/-- The files without anything at a place or below it; what the place is in stays a directory. -/
def removeAll (f : Files) (place : FilePlace) : Files :=
  { f with
    files := f.files.filter fun entry => !place.isPrefixOf entry.1
    directories := place.dropLast :: f.directories.filter fun d => !place.isPrefixOf d }

/-- Where something stands that stood at a place or below it, once the place is another one. -/
def moved (source target place : FilePlace) : FilePlace :=
  if source.isPrefixOf place then target ++ place.drop source.length else place

/-- The files with everything at a place or below it at another place, too. -/
def copyAll (f : Files) (source target : FilePlace) : Files :=
  let below := f.files.filter fun entry => source.isPrefixOf entry.1
  let directories := f.directories.filter fun d => source.isPrefixOf d
  let copied := below.foldl (fun f entry => f.write (moved source target entry.1) entry.2) f
  { copied with
    directories := directories.map (moved source target) ++
      (if f.isDirectory source then [target] else []) ++ copied.directories }

end Files

end CodeBlock
