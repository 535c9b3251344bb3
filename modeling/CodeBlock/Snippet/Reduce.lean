import CodeBlock.Snippet.Forest

set_option autoImplicit false

/-! # Making parts one part

When a rule is complete its parts are taken off a reading and put back as one part. There may be
several stacks below the top of a reading, so several readings can come of it; of several ways to the
same layer the better tree is kept. -/

namespace CodeBlock.Snippet.Steps

/-- The trees of slices, those that leave the same reading together. -/
def bySlice (slices : Array Slice) : List (Nat × List (List Tree)) :=
  slices.toList.foldr
    (fun slice groups => match groups with
      | (v, all) :: rest =>
          if v = slice.reading then (v, slice.trees :: all) :: rest
          else (slice.reading, [slice.trees]) :: (v, all) :: rest
      | [] => [(slice.reading, [slice.trees])])
    []

/-- Parts as one part, and the extra ones that came after them. -/
def makePart (symbol : Symbol) (marks : Nat) (parts : List Tree) : Steps (Tree × List Tree) := do
  let setting ← read
  let (parts, trailing) := Tree.splitTrailing parts
  return (Tree.ofParts setting.net setting.source symbol marks parts, trailing)

/-- The most readings that may be left when parts are made one part, beside those that have ended. -/
def readingLimit : Nat := 10

/-- Makes the parts on top of a reading one part in all ways. Answers the first reading that came of
    it, if one did. -/
def reduce (v : Nat) (r : Reduction) : Steps (Option Nat) := do
  let setting ← read
  let before ← readingCount
  let groups := bySlice (← takeTrees v r.count)
  let halted := ((← get).readings.filter Reading.isHalted).size
  let mut removed := 0
  for (original, all) in groups do
    -- each reading that is gone has moved the later ones up
    let new := original - removed
    if new > readingLimit + halted then
      removeReading new
      removed := removed + 1
    else
      match all with
      | [] => pure ()
      | parts :: others =>
          let place := (← top new).place
          let (first, trailing) ← makePart r.symbol r.marks parts
          let mut best := if parts.all Tree.isExtra then first.placedAt place else first
          let mut extras := trailing
          for other in others do
            let (candidate, trailing) ← makePart r.symbol r.marks other
            if best.isBetter candidate then
              best := candidate
              extras := trailing
          let state := State.after setting.net (← top new).state r.symbol
          let weighed := best.withFacts fun facts => { facts with weight := facts.weight + r.weight }
          push new (some weighed) state
          for extra in extras do
            push new (some extra) state
          for other in [0:new] do
            if other != v then
              if ← merge other new then
                removed := removed + 1
                break
  return if (← readingCount) > before then some before else none

/-- Keeps the tree of a whole text, if it is the best one so far. -/
def offer (root : Tree) : Steps Unit :=
  modify fun forest =>
    { forest with
      accepted := forest.accepted + 1
      best? := match forest.best? with
        | some old => if old.isBetter root then some root else some old
        | none => some root }

/-- Ends a reading at the end of the text: what is on its stack makes up the whole. -/
def accept (v : Nat) (finish : Tree) : Steps Unit := do
  let setting ← read
  push v (some finish) (State.initial setting.net)
  let slices ← takeAll v
  for slice in slices do
    let (_, fromLast) := slice.trees.reverse.span Tree.isExtra
    let extras := (slice.trees.reverse.takeWhile Tree.isExtra).reverse
    match fromLast with
    | last :: earlier =>
        offer (Tree.ofParts setting.net setting.source last.symbol last.facts.marks
          (earlier.reverse ++ last.parts ++ extras))
    | [] => modify fun forest => { forest with accepted := forest.accepted + 1 }
  match slices[0]? with
  | some slice => removeReading slice.reading
  | none => pure ()
  halt v

end CodeBlock.Snippet.Steps
