import CodeBlock.Shell.Machine
import CodeBlock.Shell.Pattern

set_option autoImplicit false

/-! # Names that look like a pattern

A field that is a pattern stands for the paths that look like it. Each part of the pattern between slashes
is looked for in the directories that the parts before it lead to; a name that starts with a dot only looks
like a part that does, too. -/

namespace CodeBlock.Shell

/-- The parts of a field between slashes. -/
def partsOf (field : List (Char × Bool)) : List (List (Char × Bool)) :=
  match field with
  | [] => [[]]
  | (c, q) :: rest =>
      match c, partsOf rest with
      | '/', parts => [] :: parts
      | _, part :: parts => ((c, q) :: part) :: parts
      | _, [] => [[(c, q)]]

/-- The text that a part stands for if it is no pattern. -/
def plainText : List (Char × Bool) → List Char
  | ('\\', false) :: (c, _) :: rest => c :: plainText rest
  | (c, _) :: rest => c :: plainText rest
  | [] => []

def isPattern (part : List (Char × Bool)) : Bool := (Pattern.ofMarked part).any PatternPart.isOpen

/-- The names in a directory, with those of itself and the one above, that look like a part. -/
def namesIn (m : Machine) (directory : List Char) (part : List (Char × Bool)) : List (List Char) :=
  let place := if directory.isEmpty then some m.scope.working
    else (m.tree.locate (Machine.outside directory)).toOption
  match place.filter m.files.isDirectory with
  | some place =>
      let names := "." :: ".." :: m.entries place
      (names.map Machine.inside).filter fun name =>
        (name.head? != some '.' || (plainText part).head? == some '.') &&
          (Pattern.ofMarked part).accepts name
  | none => []

/-- Whether there is something at the end of a path. -/
def isThere (m : Machine) (path : List Char) : Bool :=
  match m.tree.locate (Machine.outside path) with
  | .ok place => m.files.isDirectory place || (m.files.content? place).isSome
  | .error _ => false

/-- The paths that start with a text and look like some parts; `searched` says that one of the parts before
    was a pattern. -/
def pathsLike (m : Machine) (searched : Bool) (start : List Char) :
    List (List (Char × Bool)) → List (List Char)
  | [] => []
  | [part] =>
      if isPattern part then (namesIn m start part).map (start ++ ·)
      else
        let path := start ++ plainText part
        if searched && isThere m path then [path] else []
  | part :: parts =>
      if isPattern part then
        (namesIn m start part).flatMap fun name => pathsLike m true (start ++ name ++ ['/']) parts
      else pathsLike m searched (start ++ plainText part ++ ['/']) parts

/-- The paths that look like a field, in order, or the field itself. -/
def namesLike (m : Machine) (field : List (Char × Bool)) : List (List Char) :=
  let text := field.map (·.1)
  if m.isOn 'f' || !isPattern field then [text]
  else
    let paths := pathsLike m false [] (partsOf field)
    if paths.isEmpty then [text]
    else paths.mergeSort fun a b => decide (String.ofList a ≤ String.ofList b)

end CodeBlock.Shell
