import CodeBlock.Snippet.Reduce

set_option autoImplicit false

/-! # Going on after an error

Where a reading cannot go on, all rules are completed that could be, whatever follows. Then a token may
be put in, if the one at hand can follow it; or the reading goes back to a state it has been in and
that expects the token, and what came after becomes an error; or the token is skipped. Which of these
is kept is a matter of cost. -/

namespace CodeBlock.Snippet.Steps

def keptReadings : Nat := 6

def initialState : Steps State := do return State.initial (← read).net

/-- Whether something is done in a state on a token. -/
def isExpected (state : State) (token : Symbol) : Steps Bool := do
  return token < Token.count && (State.expected (← read).net state).has token

/-- What is done in a state on a token. -/
def actionsOn (state : State) (token : Symbol) : Steps Actions := do
  if token < Token.count then return State.actionsOn (← read).net state token else return .none

/-- What a reading could complete on some tokens, and whether it could go on with one of them. -/
def chances (state : State) (tokens : List Nat) : Steps (List Reduction × Bool) := do
  if state.isEmpty then
    return ([], ← tokens.anyM fun token => isExpected state token)
  let mut found : List Reduction := []
  let mut goesOn := false
  for token in tokens do
    let actions ← actionsOn state token
    if actions.taking == .always then
      goesOn := true
    for r in actions.reductions do
      if r.count > 0 && !found.any fun other => other.symbol == r.symbol && other.count == r.count then
        found := found ++ [r]
  return (found, goesOn)

/-- How often a reading is completed in place. -/
def completionLimit : Nat := 6

/-- A bound for the steps that one thing can take. -/
def stepLimit : Nat := 1000

/-- Completes whatever a reading could complete on a token, or on any token at all. Answers whether
    one of the readings can go on; on a certain token those that cannot are taken away. -/
def completeAll (origin : Nat) (token? : Option Nat) : Steps Bool := do
  let net := (← read).net
  let first ← readingCount
  let mut canGoOn := false
  let mut v := origin
  for round in [0:stepLimit] do
    let count ← readingCount
    if v ≥ count then break
    let mut merged := false
    for other in [first:v] do
      if ← merge other v then
        merged := true
        break
    if merged then continue
    let state := (← top v).state
    let tokens := match token? with
      | some token => [token]
      | none => (State.expected net state).toList.filter (· != Token.finish.index)
    let (reductions, goesOn) ← chances state tokens
    let mut last : Option Nat := none
    for r in reductions do
      last ← reduce v r
    if goesOn then
      canGoOn := true
    else
      match last with
      | some new =>
          if round < completionLimit then
            replaceReading new v
            continue
          else if token?.isSome then removeReading v
      | none => if token?.isSome then removeReading v
    v := if v == origin then count else v + 1
  return canGoOn

/-- Goes back to a state that a reading has been in; all that came after becomes an error. -/
def goBack (v depth : Nat) (goal : State) : Steps Bool := do
  let setting ← read
  let mut previous : Option Nat := none
  for slice in ← takeTrees v depth do
    if previous != some slice.reading then
      if (← top slice.reading).state != goal then
        halt slice.reading
      else
        let inner := ((← takeError slice.reading).head?.map Tree.parts).getD []
        let (parts, trailing) := Tree.splitTrailing (inner ++ slice.trees)
        if !parts.isEmpty then
          let fault := Tree.ofParts setting.net setting.source Symbol.error 0 parts
          push slice.reading (some (fault.asExtra true)) goal
        for extra in trailing do
          push slice.reading (some extra) goal
        previous := some slice.reading
  return previous.isSome

/-- Looks for a state that a reading has been in, from which it can go on with a token. -/
def tryGoingBack (v : Nat) (token : Tree) (readings : Nat) : Steps Bool := do
  let source := (← read).source
  let place := (← top v).place
  let since ← nodesSince v
  let cost ← costOf v
  for w in (← reading v).trail?.getD [] do
    if w.state.isEmpty || w.place == place then continue
    let mut isThere := false
    for other in [0:readings] do
      let layer ← top other
      if layer.place == place && layer.state == w.state then
        isThere := true
        break
    if isThere then continue
    if ← hasBetter v false
        (cost + w.depth * Cost.skippedPart + Cost.ofStretch source w.place place) then
      return false
    if ← isExpected w.state token.symbol then
      if ← goBack v (if since > 0 then w.depth + 1 else w.depth) w.state then
        return true
  return false

/-- Skips a token. What a reading has skipped since it went wrong is kept together. -/
def skip (v : Nat) (token : Tree) : Steps Unit := do
  let setting ← read
  let first := (← actionsOn (← initialState) token.symbol).comment
  let skipped (parts : List Tree) : Tree :=
    Tree.ofParts setting.net setting.source Symbol.skipped 0 parts
  let alone := skipped [if first then token.asExtra true else token]
  if (← nodesSince v) > 0 then
    let slices ← takeTrees v 1
    match slices[0]? with
    | some slice =>
        if slices.size > 1 then
          modify fun forest => { forest with readings := forest.readings.take (slice.reading + 1) }
        replaceReading slice.reading v
        push v (some (skipped (slice.trees ++ [alone]))) State.stuck
    | none => push v (some alone) State.stuck
  else push v (some alone) State.stuck

/-- Takes away the readings from some number on that are not active. -/
def dropInactive (from_ : Nat) : Steps Unit :=
  modify fun forest =>
    { forest with
      readings := forest.readings.take from_ ++
        (forest.readings.drop from_).filter Reading.isActive }

/-- Goes on with a reading that has gone wrong. -/
def recover (v : Nat) (token : Tree) : Steps Unit := do
  let setting ← read
  let readings ← readingCount
  let place := (← top v).place
  let cost ← costOf v
  let wentBack ← if token.symbol == Symbol.error then pure false else tryGoingBack v token readings
  dropInactive readings
  if wentBack && (← readingCount) > keptReadings then
    halt v
  else if token.symbol == Token.finish.index then
    let fault := (Tree.ofParts setting.net setting.source Symbol.error 0 []).placedAt place
    push v (some fault) (← initialState)
    accept v token
  else if ← hasBetter v false
      (cost + Cost.skippedPart + Cost.ofStretch setting.source token.start token.stop) then
    halt v
  else skip v token

/-- Looks for a token with which a reading could go on before the one at hand, and puts it in. -/
def putIn (v : Nat) (token : Tree) : Steps Bool := do
  let net := (← read).net
  let layer ← top v
  for missing in (State.expected net layer.state).toList do
    if missing != Token.finish.index then
      let actions ← actionsOn layer.state missing
      let state := State.afterToken net layer.state missing actions
      if !state.isEmpty && state != layer.state then
        if !(← actionsOn state token.symbol).reductions.isEmpty then
          let r ← reading v
          let new ← readingCount
          addReading { r with trail? := none }
          let place := layer.place
          let leaf := (Tree.leaf net missing place place place).withFacts ({ · with missing := true })
          push new (some leaf) state
          let followed := if token.symbol == Token.finish.index then none else some token.symbol
          if ← completeAll new followed then return true
  return false

/-- Deals with a token with which a reading cannot go on. -/
def repair (v : Nat) (token : Tree) : Steps Unit := do
  let first ← readingCount
  let _ ← completeAll v none
  let last ← readingCount
  let mut done := false
  for w in v :: (List.range last).drop first do
    if !done then
      done ← putIn w token
    push w none State.stuck
  for _ in [first:last] do
    let _ ← merge v first
  noteTrail v
  recover v token

end CodeBlock.Snippet.Steps
