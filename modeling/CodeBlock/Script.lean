import CodeBlock.Snippet.Tail

set_option autoImplicit false

/-! # Scripts

A script is what the interpreter is given: imports, declarations, a prologue, the body and an
epilogue, in this order and each at the start of a line. A script that is run for its value wraps the
body into a function and prints what that gives back. -/

namespace CodeBlock

/-- The pieces of a script. -/
structure Script where
  imports : List Char
  declarations : List (List Char)
  prologue : Option (List Char)
  body : List Char
  epilogue : Option (List Char)
  /-- Whether the value of the body is printed, instead of the body being run as it is. -/
  wrapped : Bool
  deriving DecidableEq, Repr

namespace Script

/-- What stands before a body whose value is printed. -/
def wrapperHead : List Char :=
  ("await Deno.stdout.write(\n" ++
    "  new TextEncoder().encode(\n" ++
    "    Deno.inspect(\n" ++
    "      await (async () => \x7b\n").toList

/-- What stands after a body whose value is printed. Nothing of the value is left out or broken into
    lines. -/
def wrapperTail : List Char :=
  ("\n      \x7d)(),\n" ++
    "      \x7b depth: Infinity, iterableLimit: Infinity, breakLength: Infinity, " ++
    "strAbbreviateSize: Infinity \x7d,\n" ++
    "    ),\n" ++
    "  ),\n" ++
    ");\n").toList

def onLines (piece : List Char) : List Char := piece ++ ['\n']

/-- What stands before the body: the imports unless there are none, an empty line, the declarations and
    the prologue. -/
def head (s : Script) : List Char :=
  (if s.imports.isEmpty then [] else onLines s.imports) ++ ['\n'] ++
    s.declarations.flatMap onLines ++ (s.prologue.map onLines).getD []

/-- The body, wrapped if its value is printed, by the nodes that a reader finds in it. -/
def wrappedBodyBy (read : List Char → List Snippet.Tree) (s : Script) : List Char :=
  if s.wrapped then wrapperHead ++ Snippet.returningBy read s.body ++ wrapperTail else s.body

/-- What comes between a text and the epilogue: a line end, unless the text ends in one. -/
def lineBreakAfter (text : List Char) : List Char :=
  if text.getLast? = some '\n' then [] else ['\n']

/-- The text of a script, by the nodes that a reader finds in its body. -/
def textBy (read : List Char → List Snippet.Tree) (s : Script) : List Char :=
  let before := s.head ++ s.wrappedBodyBy read
  match s.epilogue with
  | some epilogue => before ++ lineBreakAfter before ++ epilogue
  | none => before

/-- The text of a script. -/
def text (s : Script) : List Char := s.textBy Snippet.topNodes

theorem getLast?_append_lineBreakAfter (t : List Char) :
    (t ++ lineBreakAfter t).getLast? = some '\n' := by
  unfold lineBreakAfter
  split <;> simp_all

/-- What stands before the body ends in a line end. -/
theorem getLast?_head (s : Script) : s.head.getLast? = some '\n' := by
  unfold head
  rcases s.prologue with _ | p
  · rcases List.eq_nil_or_concat s.declarations with h | ⟨ds, d, h⟩
    · simp [h]
    · simp [h, onLines, ← List.append_assoc]
  · simp [onLines, ← List.append_assoc]

end Script

end CodeBlock
