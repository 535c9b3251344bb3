set_option autoImplicit false

/-! # Regular expressions

A regular expression says what a part of a text may look like. A part that fits starts at a place of the
text, and the expression gives all places where it may end: first those that come of the first of two
ways, and of going round a loop once more. What fits is the longest part, and of the ways to get there
the first one says what its groups hold. -/

namespace CodeBlock

/-- A place that is known by what is around it. -/
inductive Edge where
  | textStart
  | textEnd
  | lineStart
  | lineEnd
  | wordStart
  | wordEnd
  | wordEdge
  | noWordEdge
  deriving DecidableEq, Repr

/-- What a part of a text may look like. -/
inductive Regex where
  /-- The part without characters. -/
  | empty
  /-- One character of the ranges, or one of no range if `negated`; under `folded`, capital and small
      letters count as the same. -/
  | among (negated folded : Bool) (ranges : List (Char × Char))
  | edge (kind : Edge)
  | both (first second : Regex)
  | either (first second : Regex)
  /-- Any number of parts one after the other. -/
  | many (part : Regex)
  | group (number : Nat) (inner : Regex)
  /-- What the group of the number holds, once more. -/
  | again (folded : Bool) (number : Nat)
  deriving DecidableEq, Repr

/-- A place in a text, and what groups hold there: the last one first, each with its number, where it
    starts and its text. -/
structure Cursor where
  offset : Nat
  before : Option Char
  rest : List Char
  groups : List (Nat × Nat × List Char)
  deriving DecidableEq, Repr

namespace Cursor

def atStart (s : List Char) : Cursor := ⟨0, none, s, []⟩

/-- The place after some characters. -/
def advance (c : Cursor) : Nat → Cursor
  | 0 => c
  | n + 1 =>
      match c.rest with
      | [] => c
      | d :: rest => advance { c with offset := c.offset + 1, before := some d, rest := rest } n

/-- The text of a group; nothing if nothing was read for it. -/
def group? (c : Cursor) (number : Nat) : Option (List Char) := (c.groups.lookup number).map (·.2)

end Cursor

namespace Regex

/-! ## Characters and edges -/

/-- Whether a character is part of a word. -/
def isWordChar (c : Char) : Bool := c.isAlphanum || c == '_'

/-- Whether a place is of the given kind. -/
def holdsAt (c : Cursor) : Edge → Bool
  | .textStart => c.before.isNone
  | .textEnd => c.rest.isEmpty
  | .lineStart => c.before.isNone || c.before == some '\n'
  | .lineEnd => c.rest.isEmpty || c.rest.head? == some '\n'
  | .wordStart => !isBehind && isAhead
  | .wordEnd => isBehind && !isAhead
  | .wordEdge => isBehind != isAhead
  | .noWordEdge => isBehind == isAhead
where
  isBehind : Bool := c.before.any isWordChar
  isAhead : Bool := c.rest.head?.any isWordChar

/-- Whether a character is one of those that a set stands for. -/
def accepts (negated folded : Bool) (ranges : List (Char × Char)) (c : Char) : Bool :=
  let inside := fun (c : Char) => ranges.any fun (low, high) => decide (low ≤ c) && decide (c ≤ high)
  (inside c || (folded && (inside c.toLower || inside c.toUpper))) != negated

def startsWith (folded : Bool) (start s : List Char) : Bool :=
  if folded then (start.map Char.toLower).isPrefixOf (s.map Char.toLower) else start.isPrefixOf s

/-! ## Where parts end -/

/-- Without the cursors that stand at the place of an earlier one; where groups matter for what follows,
    only those go that have the same groups, too. -/
def distinct (byGroups : Bool) : List Cursor → List Cursor
  | cursors =>
      if byGroups then cursors.eraseDups
      else
        (cursors.foldl (fun (seen, kept) c =>
          if seen.testBit c.offset then (seen, kept) else (seen ||| 1 <<< c.offset, c :: kept))
          ((0 : Nat), ([] : List Cursor))).2.reverse

/-- All places within a run of characters, the last one first. -/
def runEnds (accepts : Char → Bool) : Nat → Cursor → List Cursor → List Cursor
  | 0, c, found => c :: found
  | fuel + 1, c, found =>
      match c.rest with
      | d :: rest =>
          if accepts d then
            runEnds accepts fuel { c with offset := c.offset + 1, before := some d, rest := rest }
              (c :: found)
          else c :: found
      | [] => c :: found

/-- The places that any number of steps lead to, those of more steps first; a place is found only
    once, and a step that leads nowhere is not taken. -/
def stepEnds (byGroups : Bool) (step : Cursor → List Cursor) :
    Nat → Cursor → List Cursor → List Cursor
  | 0, _, found => found
  | fuel + 1, c, found =>
      if found.any fun d => d.offset == c.offset && (!byGroups || d.groups == c.groups) then found
      else
        let further := (step c).filter fun d => c.offset < d.offset
        c :: further.foldl (fun found d => stepEnds byGroups step fuel d found) found

/-- The places where a part may end that starts at a cursor, the preferred ones first. -/
def ends (byGroups : Bool) : Regex → Cursor → List Cursor
  | empty, c => [c]
  | among negated folded ranges, c =>
      match c.rest with
      | d :: rest =>
          if accepts negated folded ranges d then
            [{ c with offset := c.offset + 1, before := some d, rest := rest }]
          else []
      | [] => []
  | edge kind, c => if holdsAt c kind then [c] else []
  | both first second, c =>
      distinct byGroups ((ends byGroups first c).flatMap (ends byGroups second))
  | either first second, c => distinct byGroups (ends byGroups first c ++ ends byGroups second c)
  | many (among negated folded ranges), c =>
      runEnds (accepts negated folded ranges) (c.rest.length + 1) c []
  | many part, c =>
      (stepEnds byGroups (ends byGroups part) (c.rest.length + 1) c []).reverse
  | group number inner, c =>
      (ends byGroups inner c).map fun d =>
        { d with
          groups := (number, c.offset, c.rest.take (d.offset - c.offset)) :: d.groups }
  | again folded number, c =>
      match c.group? number with
      | some text => if startsWith folded text c.rest then [c.advance text.length] else []
      | none => []

/-- Whether an expression looks at what groups hold. -/
def looksBack : Regex → Bool
  | both first second => looksBack first || looksBack second
  | either first second => looksBack first || looksBack second
  | many part => looksBack part
  | group _ inner => looksBack inner
  | again _ _ => true
  | _ => false

/-- The number of groups of an expression. -/
def groupCount : Regex → Nat
  | both first second => groupCount first + groupCount second
  | either first second => groupCount first + groupCount second
  | many part => groupCount part
  | group _ inner => groupCount inner + 1
  | _ => 0

/-! ## Finding parts -/

/-- The end of the longest part that fits from a cursor on. -/
def longest? (r : Regex) (c : Cursor) : Option Cursor :=
  (r.ends r.looksBack { c with groups := [] }).foldl (fun best d =>
    match best with
    | some b => if b.offset < d.offset then some d else best
    | none => some d) none

/-- A part of a text that fits. -/
structure Finding where
  /-- Where the part starts. -/
  start : Cursor
  /-- Where it ends, with what its groups hold. -/
  stop : Cursor
  deriving Repr

/-- The characters of a part. -/
def Finding.text (f : Finding) : List Char := f.start.rest.take (f.stop.offset - f.start.offset)

/-- The first part that fits from a cursor on. -/
def find? (r : Regex) (c : Cursor) : Option Finding := search c.rest.length c
where
  search : Nat → Cursor → Option Finding
    | fuel, c =>
        match r.longest? c, fuel with
        | some stop, _ => some ⟨c, stop⟩
        | none, 0 => none
        | none, fuel + 1 => search fuel (c.advance 1)

/-- Whether a part of a text fits. -/
def occursIn (r : Regex) (s : List Char) : Bool := (r.find? (.atStart s)).isSome

end Regex

end CodeBlock
