import CodeBlock.Snippet.Ahead
import CodeBlock.Snippet.Lexicon

set_option autoImplicit false

/-! # Cutting a text into tokens

At a place of a text the tokens of a context are read all at once, character by character, as long as
one of them goes on; the longest one that was complete on the way is the token that comes next. A
token of greater weight is not given up for one of less that goes on. -/

namespace CodeBlock.Snippet

/-- A token that is being read: its place among the tokens, what is left of its pattern, and its
    weight. -/
structure Candidate where
  token : Nat
  pattern : Pattern
  weight : Int

namespace Candidate

/-- What a candidate becomes after a character. -/
def rest? (c : Char) (candidate : Candidate) : Option Candidate :=
  match candidate.pattern.rest c with
  | .nothing => none
  | p => some { candidate with pattern := p }

end Candidate

/-- A context made ready for reading: its tokens, and those of them that may have blanks before. -/
structure Reader where
  context : Context
  starts : List Candidate
  free : List Candidate

namespace Reader

/-- Makes a context ready. -/
def ofContext (context : Context) : Reader :=
  let candidates (attachedToo : Bool) : List Candidate :=
    (Token.all.zipIdx.filter fun (_, i) => context.tokens.has i).filterMap fun (t, i) =>
      (Spelling.ofToken t).bind fun spelling =>
        if spelling.attached && !attachedToo then none
        else some ⟨i, spelling.pattern, spelling.weight⟩
  ⟨context, candidates true, candidates false⟩

/-- What has been read at a place: the token and where it ends, where it starts, and where reading
    stopped. -/
structure Outcome where
  token? : Option (Nat × Nat)
  start : Nat
  stop : Nat
  deriving Repr

/-- Of two tokens that are both complete the one that is preferred. -/
def preferred (preferences : Array Nat) (a b : Candidate) : Candidate :=
  let preference (c : Candidate) : Nat := preferences.getD c.token 0
  if a.weight != b.weight then (if a.weight > b.weight then a else b)
  else if preference a != preference b then (if preference a > preference b then a else b)
  else if a.token ≤ b.token then a else b

/-- The complete token that is preferred to all others. -/
def complete? (preferences : Array Nat) (candidates : List Candidate) : Option Candidate :=
  (candidates.filter (·.pattern.mayBeEmpty)).foldl
    (fun best candidate => match best with
      | none => some candidate
      | some other => some (preferred preferences other candidate))
    none

/-- Whether reading goes on after a complete token, with those candidates that have taken another
    character. `blanksOnly` says that all before was blanks, and `blank` that the character is one
    that they may go on with. -/
def goesOn (token : Candidate) (blanksOnly blank : Bool) (taken : List Candidate) : Bool :=
  let weights := taken.map Candidate.weight ++ (if blank then [0] else [])
  if weights.any (· > token.weight) then true
  else if !weights.any (· == token.weight) then false
  else !taken.isEmpty && (!blanksOnly || taken.any (·.token == token.token))

/-- Reads on at the place `at` with those candidates. -/
def readFrom (reader : Reader) (preferences : Array Nat) :
    List Char → Nat → Nat → Bool → List Candidate → Option (Nat × Nat) → Outcome
  | s, place, start, blanksOnly, candidates, found =>
      let complete := complete? preferences candidates
      let found := match complete with
        | some c => some (c.token, place)
        | none => found
      match s with
      | [] =>
          if reader.context.mayFinish && start == place then
            ⟨some (Token.finish.index, place), start, place⟩
          else ⟨found, start, place⟩
      | c :: rest =>
          let taken := candidates.filterMap (Candidate.rest? c)
          let blank := blanksOnly && isBlank c
          let ended := match complete with
            | some token => !goesOn token blanksOnly blank taken
            | none => false
          if ended || (taken.isEmpty && !blank) then ⟨found, start, place⟩
          else
            readFrom reader preferences rest (place + 1)
              (if taken.isEmpty then place + 1 else start) blank
              (if blank then taken ++ reader.free else taken) found

/-- Reads the token that comes next in a text, which starts at a place. -/
def read (reader : Reader) (preferences : Array Nat) (s : List Char) (place : Nat) : Outcome :=
  readFrom reader preferences s place place true reader.starts none

end Reader

/-! ## Scanners -/

/-- All that is needed for reading tokens. -/
structure Scanner where
  readers : Array Reader
  /-- The reader where nothing can be read as the grammar wants it. -/
  stray : Reader
  crowding : List (TokenSet × TokenSet)
  preferences : Array Nat
  /-- The tokens that are written as texts of their own. -/
  written : TokenSet
  words : TokenSet
  /-- The words with their places. -/
  wordPlaces : List (List Char × Nat)

namespace Scanner

/-- The scanner of snippets. -/
def snippets : Thunk Scanner := Thunk.mk fun _ =>
  { readers := (Lexicon.contexts.map Reader.ofContext).toArray
    stray := .ofContext Lexicon.strayContext
    crowding := Lexicon.crowdingSets
    preferences := (Token.all.map Spelling.preference).toArray
    written := Lexicon.written
    words := .ofList (Token.all.filter Token.isWord)
    wordPlaces := Token.all.zipIdx.filterMap fun
      | (.fixed text, i) => if (Token.fixed text).isWord then some (text.toList, i) else none
      | _ => none }

/-- The reader for a state that expects some tokens. -/
def readerFor (scanner : Scanner) (expected : TokenSet) : Reader :=
  let wanted := scanner.written.inter expected
  let wanted :=
    if (scanner.words.inter expected).isEmpty then wanted
    else wanted.union (.single Token.name.index)
  (scanner.readers.find? fun reader =>
    wanted.isSubset reader.context.tokens &&
      let added := reader.context.tokens.without wanted
      scanner.crowding.all fun (crowding, crowded) =>
        (added.inter crowding).isEmpty || (wanted.inter crowded).isEmpty).getD scanner.stray

def word? (scanner : Scanner) (text : List Char) : Option Nat :=
  (scanner.wordPlaces.find? (·.1 = text)).map (·.2)

end Scanner

end CodeBlock.Snippet
