import CodeBlock.Snippet.Repair

set_option autoImplicit false

/-! # Reading a text

All readings are taken forward token by token, the one that is behind first, and those that turn out
worse than another one are given up. The reading that comes to the end at the least cost gives the
tree of the text. -/

namespace CodeBlock.Snippet

namespace Steps

/-! ## Tokens -/

/-- The token that comes next at a place where the grammar says nothing about it, and what had to be
    skipped before it. -/
def strayToken (scanner : Scanner) (source : Source) : Nat → Nat → Option (Nat × Nat) →
    Option (Nat × Nat) × Option (Nat × Nat × Nat)
  | 0, _, skipped => (skipped, none)
  | fuel + 1, place, skipped =>
      let outcome := scanner.stray.read scanner.preferences (source.rest place) place
      match outcome.token? with
      | some (token, stop) => (skipped, some (token, min outcome.start stop, stop))
      | none =>
          let (low, high) := skipped.getD (outcome.start, outcome.start)
          if outcome.stop == high then
            if high == source.length then (some (low, high), none)
            else strayToken scanner source fuel (high + 1) (some (low, high + 1))
          else strayToken scanner source fuel outcome.stop (some (low, outcome.stop))

/-- The token that comes next as a tree, or an error for what cannot be read at all. -/
def nextToken (v : Nat) : Steps Tree := do
  let ⟨net, scanner, source⟩ ← read
  let layer ← top v
  let place := layer.place
  let expected := State.expected net layer.state
  let ahead := Ahead.find? (fun t => expected.has t.index) (source.rest place)
  let ahead ← match ahead with
    | some found =>
        -- a token without any text is taken only if it brings the reading on
        if found.skipped + found.length > 0 then pure (some found)
        else
          let token := found.token.index
          let state := State.afterToken net layer.state token (← actionsOn layer.state token)
          if layer.state.isEmpty || !(← hasAdvanced v) || state == layer.state then pure none
          else pure (some found)
    | none => pure none
  let written : Option (Nat × Nat) × Option (Nat × Nat × Nat) := match ahead with
    | some found =>
        (none, some (found.token.index, place + found.skipped,
          place + found.skipped + found.length))
    | none =>
        let outcome := if layer.state.isEmpty then none else
          let reader := scanner.readerFor expected
          let outcome := reader.read scanner.preferences (source.rest place) place
          outcome.token?.map fun (token, stop) => (token, min outcome.start stop, stop)
        match outcome with
        | some found => (none, some found)
        | none => strayToken scanner source (source.length + 2) place none
  match written with
  | (some (low, high), _) => return Tree.leaf net Symbol.error place low high
  | (none, none) => return Tree.leaf net Symbol.error place place place
  | (none, some (token, content, stop)) =>
      if token != Token.name.index then return Tree.leaf net token place content stop
      else
        match scanner.word? ((source.rest content).take (stop - content)) with
        | none => return Tree.leaf net token place content stop
        | some word =>
            -- a keyword that is not expected here is a name
            let leaf := Tree.leaf net (if expected.has word then word else token) place content stop
            return leaf.withFacts ({ · with word := true })

/-- A word that is no more than a name. -/
def asName (net : Network) : Tree → Tree
  | .mk _ start content stop parts facts =>
      let name := Token.name.index
      .mk name start content stop parts { facts with visible := Tree.isVisibleSymbol net name }

/-! ## Going forward -/

/-- What one round of work on a token leaves to do. -/
inductive Progress where
  | done
  /-- The same reading goes on with a token. -/
  | again (token : Tree)

/-- Does what is to be done on a token once. -/
def actOnce (v : Nat) (token : Tree) : Steps Progress := do
  let net := (← read).net
  let state := (← top v).state
  let actions ← actionsOn state token.symbol
  let mut last : Option Nat := none
  for r in actions.reductions do
    match ← reduce v r with
    | some new => last := some new
    | none => pure ()
  if actions.accepts then
    accept v token
    return .done
  if actions.taking == .always then
    push v (some (token.asExtra false)) (State.after net state token.symbol)
    return .done
  if actions.comment then
    push v (some (token.asExtra true)) state
    return .done
  match last with
  | some new =>
      -- the reading that came of a rule goes on in place of this one
      replaceReading new v
      return .again token
  | none =>
      if !actions.reductions.isEmpty then
        halt v
        return .done
      if state.isEmpty then
        recover v token
        return .done
      if token.facts.word && token.symbol != Token.name.index &&
          (← isExpected state Token.name.index) then
        -- nothing is done on the keyword, but something would be on a name
        return .again (asName net token)
      let layer ← top v
      changeReading v ({ · with status := .paused token, baseline := layer.nodeCount })
      return .done

/-- Takes a reading forward over one token. -/
def advance (v : Nat) : Steps Unit := do
  let mut token ← nextToken v
  for _ in [0:(← get).layers.size + stepLimit] do
    match ← actOnce v token with
    | .done => return
    | .again next => token := next

/-! ## Giving readings up -/

/-- Settles which of a reading and the ones before it are kept. Answers how many are left up to it. -/
def settleWith (i : Nat) : Steps Nat := do
  let self ← standing i
  let mut i := i
  let mut j := 0
  for _ in [0:i] do
    if j ≥ i then break
    match (← standing j).compare self with
    | .first true =>
        removeReading i
        return i
    | .second true =>
        removeReading j
        i := i - 1
    | .second false =>
        if ← merge j i then return i
        modify fun forest => { forest with readings := forest.readings.swapIfInBounds i j }
        j := j + 1
    | _ =>
        if ← merge j i then return i
        j := j + 1
  return i + 1

/-- Gives up the readings that are worse than others or too many. Answers the least cost of those that
    have not gone wrong. -/
def thinOut : Steps (Option Nat) := do
  let mut least : Option Nat := none
  let mut i := 0
  for _ in [0:← readingCount] do
    if i ≥ (← readingCount) then break
    if (← reading i).isHalted then
      removeReading i
    else
      let self ← standing i
      if !self.wrong then
        least := some (match least with
          | some cost => min cost self.cost
          | none => self.cost)
      i ← settleWith i
  modify fun forest => { forest with readings := forest.readings.take keptReadings }
  return least

/-- Deals with the readings that wait: the best one goes on if no other one does, and the others are
    given up. -/
def resume (least : Option Nat) : Steps (Option Nat) := do
  let mut least := least
  let mut alive := false
  let mut i := 0
  for _ in [0:← readingCount] do
    match (← reading i).status with
    | .paused token =>
        if !alive && (← get).accepted < keptReadings then
          least := some (← costOf i)
          changeReading i ({ · with status := .active })
          repair i token
          alive := true
          i := i + 1
        else removeReading i
    | _ =>
        alive := true
        i := i + 1
  return least

/-! ## The whole -/

/-- Takes the readings forward: each one until it is at least as far as any before it. -/
def advanceAll (furthest : Nat) : Steps Nat := do
  let mut furthest := furthest
  let mut v := 0
  for _ in [0:stepLimit] do
    if v ≥ (← readingCount) then break
    for _ in [0:(← read).source.length + stepLimit] do
      if !(← reading v).isActive then break
      advance v
      let place := (← top v).place
      if place > furthest || (v > 0 && place == furthest) then
        furthest := place
        break
    v := v + 1
  return furthest

/-- Reads the text to its end. -/
def readAll : Steps Unit := do
  let mut furthest := 0
  for _ in [0:4 * (← read).source.length + stepLimit] do
    furthest ← advanceAll furthest
    let least ← thinOut
    let least ← resume least
    match (← get).best?, least with
    | some t, some cost => if t.cost < cost then return
    | some _, none => return
    | none, _ => pure ()
    if (← readingCount) == 0 then return

end Steps

def Tree.ofText? (s : List Char) : Option Tree :=
  let net := Network.snippets.get
  let setting : Setting := ⟨net, Scanner.snippets.get, Source.ofText s⟩
  let start : Forest :=
    ⟨#[⟨State.initial net, 0, 0, 0, 0, []⟩], #[⟨0, 0, .active, none⟩], none, 0⟩
  ((Steps.readAll.run setting).run start).2.best?

end CodeBlock.Snippet
