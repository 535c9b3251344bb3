import CodeBlock.Snippet.Lexer
import CodeBlock.Snippet.State
import CodeBlock.Snippet.Tree

set_option autoImplicit false

/-! # Readings of a text

A text is read in several ways at once as long as more than one may turn out right. Each **reading**
stands on a stack of layers; a layer holds a state and is linked to the layers below it by the trees
that lead from them to it. Readings that come to the same state at the same place are merged into one,
whose top layer has a link for each way to it, so the stacks share their layers. -/

namespace CodeBlock.Snippet

/-- A link to the layer below, over a tree; over none where an error begins. -/
structure Link where
  below : Nat
  tree? : Option Tree

/-- A layer of the stacks: its state and place, and what the trees below it cost, weigh and hold. -/
structure Layer where
  state : State
  place : Nat
  cost : Nat
  weight : Int
  nodeCount : Nat
  links : List Link

instance : Inhabited Layer := ⟨⟨[], 0, 0, 0, 0, []⟩⟩

/-- Whether a reading goes on. -/
inductive Status where
  | active
  /-- It waits at a token with which it cannot go on. -/
  | paused (token : Tree)
  | halted

/-- A state that a reading has been in: where, and how many parts ago. -/
structure Waypoint where
  place : Nat
  depth : Nat
  state : State

/-- One way to read the text up to some place. -/
structure Reading where
  top : Nat
  /-- How many nodes it had when it last went wrong. -/
  baseline : Nat
  status : Status
  /-- Where it has been when it last went wrong. -/
  trail? : Option (List Waypoint)

instance : Inhabited Reading := ⟨⟨0, 0, .halted, none⟩⟩

/-- All readings with their stacks, and the best tree of a whole text that has been found. -/
structure Forest where
  layers : Array Layer
  readings : Array Reading
  best? : Option Tree
  accepted : Nat

/-- What is read, and by which grammar. -/
structure Setting where
  net : Network
  scanner : Scanner
  source : Source

/-- A step of reading. -/
abbrev Steps := ReaderT Setting (StateM Forest)

namespace Reading

def isActive (r : Reading) : Bool := match r.status with | .active => true | _ => false

/-- Whether a reading waits at a token. -/
def isPaused (r : Reading) : Bool := match r.status with | .paused _ => true | _ => false

/-- Whether a reading has ended. -/
def isHalted (r : Reading) : Bool := match r.status with | .halted => true | _ => false

end Reading

namespace Steps

/-! ## Layers and readings -/

/-- How many readings there are. -/
def readingCount : Steps Nat := do return (← get).readings.size

def reading (v : Nat) : Steps Reading := do return (← get).readings.getD v default

def layer (i : Nat) : Steps Layer := do return (← get).layers.getD i default

def top (v : Nat) : Steps Layer := do layer (← reading v).top

def changeReading (v : Nat) (f : Reading → Reading) : Steps Unit :=
  modify fun forest => { forest with readings := forest.readings.modify v f }

def changeLayer (i : Nat) (f : Layer → Layer) : Steps Unit :=
  modify fun forest => { forest with layers := forest.layers.modify i f }

def addReading (r : Reading) : Steps Unit :=
  modify fun forest => { forest with readings := forest.readings.push r }

/-- Takes a reading away. -/
def removeReading (v : Nat) : Steps Unit :=
  modify fun forest => { forest with readings := forest.readings.eraseIdxIfInBounds v }

/-- Ends a reading. -/
def halt (v : Nat) : Steps Unit := changeReading v ({ · with status := .halted })

/-- Puts a layer on top of a reading. -/
def push (v : Nat) (tree? : Option Tree) (state : State) : Steps Unit := do
  let r ← reading v
  let below ← layer r.top
  let new : Layer := match tree? with
    | some t =>
        ⟨state, below.place + t.length, below.cost + t.cost, below.weight + t.facts.weight,
          below.nodeCount + t.nodeCount, [⟨r.top, some t⟩]⟩
    | none => { below with state, links := [⟨r.top, none⟩] }
  let i := (← get).layers.size
  modify fun forest => { forest with layers := forest.layers.push new }
  changeReading v fun r =>
    { r with top := i, baseline := if tree?.isNone then new.nodeCount else r.baseline }

/-- Puts a reading in the place of another one. -/
def replaceReading (new old : Nat) : Steps Unit := do
  if new != old then
    let r ← reading new
    let trail? := match (← reading old).trail?, r.trail? with
      | some trail, none => some trail
      | _, trail => trail
    changeReading old fun _ => { r with trail? }
    removeReading new

/-! ## Links -/

/-- The most links that a layer has. -/
def linkLimit : Nat := 8

/-- Whether the links lead over trees that can stand for each other. -/
def alikeLinks (a b : Link) : Bool :=
  match a.tree?, b.tree? with
  | some s, some t => s.alike t
  | none, none => true
  | _, _ => false

/-- Adds a link to a layer. If there is one like it, then what the two lead to is merged in turn;
    `fuel` bounds how far down that goes. -/
def addLink : Nat → Nat → Link → Steps Unit
  | 0, _, _ => return
  | fuel + 1, self, link => do
      if link.below == self then return
      let weightOf (link : Link) : Int := (link.tree?.map (·.facts.weight)).getD 0
      let old := (← layer self).links
      let below ← layer link.below
      for (other, i) in old.zipIdx do
        if alikeLinks other link then
          if other.below == link.below then
            if weightOf link > weightOf other then
              changeLayer self fun layer =>
                { layer with links := layer.links.set i link, weight := below.weight + weightOf link }
            return
          let otherBelow ← layer other.below
          if otherBelow.state == below.state && otherBelow.place == below.place &&
              otherBelow.cost == below.cost then
            for further in below.links do
              addLink fuel other.below further
            changeLayer self fun layer =>
              { layer with weight := max layer.weight (below.weight + weightOf link) }
            return
      if old.length < linkLimit then
        let count := below.nodeCount + ((link.tree?.map Tree.nodeCount).getD 0)
        changeLayer self fun layer =>
          { layer with
            links := layer.links ++ [link]
            nodeCount := max layer.nodeCount count
            weight := max layer.weight (below.weight + weightOf link) }

/-- Whether two readings have come to the same. -/
def canMerge (a b : Nat) : Steps Bool := do
  if !((← reading a).isActive && (← reading b).isActive) then return false
  let x ← top a
  let y ← top b
  return x.place == y.place && x.cost == y.cost && x.state == y.state

/-- Merges a reading into another one if both have come to the same. -/
def merge (into other : Nat) : Steps Bool := do
  if !(← canMerge into other) then return false
  let self := (← reading into).top
  for link in (← top other).links do
    addLink (← get).layers.size self link
  let layer ← layer self
  if layer.state.isEmpty then
    changeReading into ({ · with baseline := layer.nodeCount })
  removeReading other
  return true

/-! ## Going down the stacks -/

/-- A walk down a stack: the layer that it has come to, the trees on the way in the order of the text,
    and how many of them are inside of the rules. -/
structure Walk where
  layer : Nat
  trees : List Tree
  count : Nat

/-- The trees that a walk has taken off, and the reading that stands where it ended. -/
structure Slice where
  trees : List Tree
  reading : Nat

/-- The most walks at a time. -/
def walkLimit : Nat := 64

/-- What is done where a walk has come to: whether the trees are taken off, and whether it ends. -/
structure Decision where
  take : Bool
  ends : Bool

/-- Takes the trees of a walk off: a reading is added that stands where it ended, unless one was added
    already. -/
def takeOff (baseline : Nat) (walk : Walk) (slices : Array Slice) : Steps (Array Slice) := do
  let readings := (← get).readings
  let isThere (slice : Slice) : Bool := (readings.getD slice.reading default).top == walk.layer
  match (List.range slices.size).reverse.find? fun k => (slices[k]?.map isThere).getD false with
  | some k =>
      let reading := ((slices[k]?).map Slice.reading).getD 0
      return slices.insertIdxIfInBounds (k + 1) ⟨walk.trees, reading⟩
  | none =>
      addReading ⟨walk.layer, baseline, .active, none⟩
      return slices.push ⟨walk.trees, readings.size⟩

def Walk.over (walk : Walk) (link : Link) : Walk :=
  match link.tree? with
  | some t => ⟨link.below, t :: walk.trees, if t.isExtra then walk.count else walk.count + 1⟩
  | none => ⟨link.below, walk.trees, walk.count + 1⟩

/-- Walks down the stack of a reading in all ways. `visit` decides what is done at each layer, from
    what it has noted at those before. -/
def walkDown {σ : Type} (visit : σ → Walk → Layer → σ × Decision) (note : σ) (v : Nat) :
    Steps (σ × Array Slice) := do
  let r ← reading v
  let mut note := note
  let mut slices : Array Slice := #[]
  let mut walks : List Walk := [⟨r.top, [], 0⟩]
  for _ in [0:(← get).layers.size + 1] do
    if walks.isEmpty then break
    let mut size := walks.length
    let mut kept : List Walk := []
    let mut split : List Walk := []
    for walk in walks do
      let layer ← layer walk.layer
      let (noted, decision) := visit note walk layer
      note := noted
      if decision.take then
        slices ← takeOff r.baseline walk slices
      match layer.links with
      | [] => size := size - 1
      | first :: others =>
          if decision.ends then
            size := size - 1
          else
            for link in others do
              if size < walkLimit then
                split := walk.over link :: split
                size := size + 1
            kept := walk.over first :: kept
    walks := kept.reverse ++ split.reverse
  return (note, slices)

/-- Takes some number of trees off a reading, in all ways. -/
def takeTrees (v count : Nat) : Steps (Array Slice) := do
  return (← walkDown
    (fun _ walk _ => let here := walk.count == count; ((), ⟨here, here⟩)) () v).2

/-- Takes all trees off a reading, in all ways. -/
def takeAll (v : Nat) : Steps (Array Slice) := do
  return (← walkDown (fun _ _ layer => ((), ⟨layer.links.isEmpty, false⟩)) () v).2

/-- Takes the error off that is on top of a reading, if there is one. -/
def takeError (v : Nat) : Steps (List Tree) := do
  let isError (tree? : Option Tree) : Bool := (tree?.map (·.symbol == Symbol.error)).getD false
  if (← top v).links.any fun link => isError link.tree? then
    let (_, slices) ← walkDown
      (fun (found : Bool) walk _ =>
        if walk.trees.isEmpty then (found, ⟨false, false⟩)
        else if !found && isError walk.trees.head? then (true, ⟨true, true⟩)
        else (found, ⟨false, true⟩))
      false v
    match slices[0]? with
    | some slice =>
        replaceReading slice.reading v
        return slice.trees
    | none => return []
  else return []

/-- The most parts that are gone back over. -/
def trailLength : Nat := 16

/-- Notes where a reading has been. -/
def noteTrail (v : Nat) : Steps Unit := do
  let (trail, _) ← walkDown
    (fun (trail : List Waypoint) walk layer =>
      if walk.count > trailLength then (trail, ⟨false, true⟩)
      else if (trail.takeWhile (·.depth ≥ walk.count)).any fun w =>
          w.depth == walk.count && w.state == layer.state then (trail, ⟨false, false⟩)
      else (⟨layer.place, walk.count, layer.state⟩ :: trail, ⟨false, false⟩))
    [] v
  changeReading v ({ · with trail? := some trail.reverse })

/-! ## Comparing readings -/

/-- How many nodes a reading has since it last went wrong. -/
def nodesSince (v : Nat) : Steps Nat := do
  let count := (← top v).nodeCount
  changeReading v fun r => { r with baseline := min r.baseline count }
  return count - (← reading v).baseline

/-- What is wrong with a reading. -/
def costOf (v : Nat) : Steps Nat := do
  let layer ← top v
  let begun := layer.state.isEmpty && (match layer.links with
    | link :: _ => link.tree?.isNone
    | [] => false)
  return if (← reading v).isPaused || begun then layer.cost + Cost.error else layer.cost

/-- How a reading stands. -/
structure Standing where
  cost : Nat
  nodeCount : Nat
  weight : Int
  wrong : Bool

/-- How a reading stands. -/
def standing (v : Nat) : Steps Standing := do
  let cost ← costOf v
  let nodeCount ← nodesSince v
  let layer ← top v
  let paused := (← reading v).isPaused
  return ⟨if paused then cost + Cost.skippedPart else cost, nodeCount, layer.weight,
    paused || layer.state.isEmpty⟩

/-- Which of two readings is better, and whether by so much that the other one is given up. -/
inductive Verdict where
  | first (alone : Bool)
  | neither
  | second (alone : Bool)
  deriving DecidableEq

/-- How much worse a reading may be before it is given up, for one that has only begun. -/
def tolerance : Nat := 1800

/-- Compares two readings. -/
def Standing.compare (a b : Standing) : Verdict :=
  let far (better worse : Standing) : Bool :=
    (worse.cost - better.cost) * (1 + better.nodeCount) > tolerance
  if !a.wrong && b.wrong then .first (a.cost < b.cost)
  else if a.wrong && !b.wrong then .second (b.cost < a.cost)
  else if a.cost < b.cost then .first (far a b)
  else if b.cost < a.cost then .second (far b a)
  else if a.weight > b.weight then .first false
  else if b.weight > a.weight then .second false
  else .neither

/-- Whether there is something better than a reading that would have some cost. -/
def hasBetter (v : Nat) (wrong : Bool) (cost : Nat) : Steps Bool := do
  match (← get).best? with
  | some t => if t.cost ≤ cost then return true
  | none => pure ()
  let layer ← top v
  let self : Standing := ⟨cost, ← nodesSince v, layer.weight, wrong⟩
  for i in [0:← readingCount] do
    if i != v && (← reading i).isActive && (← top i).place ≥ layer.place then
      match self.compare (← standing i) with
      | .second true => return true
      | .second false => if ← canMerge i v then return true
      | _ => pure ()
  return false

/-- Whether a reading has come further since it last went wrong. -/
def hasAdvanced (v : Nat) : Steps Bool := do
  let r ← reading v
  if (← layer r.top).cost == 0 then return true
  let mut here := r.top
  for _ in [0:(← get).layers.size + 1] do
    let layer ← layer here
    match layer.links with
    | ⟨below, some t⟩ :: _ =>
        if t.length > 0 then return true
        if layer.nodeCount > r.baseline && t.cost == 0 then
          here := below
        else return false
    | _ => return false
  return false

end Steps

end CodeBlock.Snippet
