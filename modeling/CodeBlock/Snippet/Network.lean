import CodeBlock.Snippet.Grammar

set_option autoImplicit false

/-! # The network of a grammar

For reading, the rules are turned into a network. A **symbol** is a token, a category, or a
**repetition**: one or more of what a rule may have any number of. The ways to write a symbol that are
of one rank, side and weight make up a **group**. From the entry of its group a way leads over edges
marked with symbols from node to node; a text is written that way if its symbols lead to a node at
which the group may end. Nodes from which the same ways lead on are the same node.

The network also answers what can come first: which tokens begin a symbol, and over which edges a
symbol is entered. -/

namespace CodeBlock.Snippet

/-- What a text is built of, by number: the tokens in their order, then the categories, then the
    repetitions, and last the whole text. -/
abbrev Symbol := Nat

namespace Symbol

def ofToken (t : Token) : Symbol := t.index

def ofCategory (c : Category) : Symbol := Token.count + c.ctorIdx

/-- The first symbol after the categories. -/
def firstRepetition : Symbol := Token.count + Category.count

end Symbol

/-- A step from one node to another. -/
structure Edge where
  symbol : Symbol
  /-- Whether a token on the edge counts as a part with a name. -/
  named : Bool
  target : Nat
  deriving DecidableEq, Repr

/-- A place in a rule: whether the rule may end there, and how it goes on. -/
structure Node where
  accepts : Bool
  edges : List Edge
  deriving DecidableEq, Repr

/-- The ways to write a symbol that are of one rank, side and weight. -/
structure Group where
  symbol : Symbol
  /-- The category, if the symbol is one. -/
  category? : Option Category
  rank : Rank
  side : Option Side
  weight : Int
  entry : Nat
  deriving Repr

/-- A place in a text that is being read: a node of a group, how many parts have been read, and which
    of them count as named, as bits. -/
structure Item where
  group : Nat
  node : Nat
  count : Nat
  marks : Nat
  deriving DecidableEq, Repr

/-- An item that a symbol may be entered with: what may follow it there, and whether what follows the
    symbol may follow it as well. -/
structure Entrance where
  item : Item
  ahead : TokenSet
  passes : Bool
  deriving Repr

/-! ## Rules as nodes -/

namespace Rule

/-- The things that a rule repeats, inner ones first. -/
def repeated : Rule → List Rule
  | token _ _ | category _ | nothing => []
  | both p q | either p q => p.repeated ++ q.repeated
  | oneOrMore p => p.repeated ++ [p]
  | ranked _ _ p | weighted _ p => p.repeated

/-- The alternatives of a rule with their rank, side and weight. -/
def alternatives (rank : Rank) (side : Option Side) (weight : Int) :
    Rule → List (Rank × Option Side × Int × Rule)
  | either p q => p.alternatives rank side weight ++ q.alternatives rank side weight
  | ranked rank side p => p.alternatives rank side weight
  | weighted weight p => p.alternatives rank side weight
  | p => [(rank, side, weight, p)]

end Rule

/-- A first step of a rule, and what is then left of it. -/
structure FirstStep where
  symbol : Symbol
  named : Bool
  rest : List Rule

/-- The first steps of what is left of a rule, and whether it may end at once. -/
structure Openings where
  mayEnd : Bool
  steps : List FirstStep

namespace Openings

/-- Those of two alternatives. -/
def or (a b : Openings) : Openings := ⟨a.mayEnd || b.mayEnd, a.steps ++ b.steps⟩

/-- Those of a rule before `rest`, whose own openings are `after`. -/
def before (symbolOf : Rule → Symbol) : Rule → List Rule → Openings → Openings
  | .token t named, rest, _ => ⟨false, [⟨.ofToken t, named, rest⟩]⟩
  | .category c, rest, _ => ⟨false, [⟨.ofCategory c, false, rest⟩]⟩
  | .nothing, _, after => after
  | .both p q, rest, after => before symbolOf p (q :: rest) (before symbolOf q rest after)
  | .either p q, rest, after => (before symbolOf p rest after).or (before symbolOf q rest after)
  | .oneOrMore p, rest, _ => ⟨false, [⟨symbolOf p, false, rest⟩]⟩
  | .ranked _ _ p, rest, after => before symbolOf p rest after
  | .weighted _ p, rest, after => before symbolOf p rest after

/-- Those of rules one after the other. -/
def ofRules (symbolOf : Rule → Symbol) : List Rule → Openings
  | [] => ⟨true, []⟩
  | p :: rest => before symbolOf p rest (ofRules symbolOf rest)

end Openings

/-- Nodes in the making: the nodes, and for what is left of the rule at hand the node it became. -/
structure Drafts where
  nodes : Array Node
  known : List (List (List Rule) × Nat)

namespace Drafts

/-- Puts a node among the nodes, unless it is there. -/
def place (drafts : Drafts) (node : Node) : Nat × Drafts :=
  match drafts.nodes.findIdx? (· = node) with
  | some i => (i, drafts)
  | none => (drafts.nodes.size, { drafts with nodes := drafts.nodes.push node })

/-- Puts a step among the steps that begin with the same symbol, in the order of the symbols. -/
def sortIn (step : FirstStep) :
    List ((Symbol × Bool) × List (List Rule)) → List ((Symbol × Bool) × List (List Rule))
  | [] => [((step.symbol, step.named), [step.rest])]
  | ((symbol, named), rests) :: more =>
      if step.symbol = symbol ∧ step.named = named then
        ((symbol, named), if rests.contains step.rest then rests else rests ++ [step.rest]) :: more
      else if step.symbol < symbol ∨ (step.symbol = symbol ∧ named) then
        ((step.symbol, step.named), [step.rest]) :: ((symbol, named), rests) :: more
      else ((symbol, named), rests) :: sortIn step more

/-- The node for what may be left of a rule; `fuel` bounds how far the rule goes. -/
def draw (symbolOf : Rule → Symbol) : Nat → List (List Rule) → Drafts → Nat × Drafts
  | 0, _, drafts => drafts.place ⟨false, []⟩
  | fuel + 1, lefts, drafts =>
      match drafts.known.find? (·.1 = lefts) with
      | some (_, node) => (node, drafts)
      | none =>
          let openings := (lefts.map (Openings.ofRules symbolOf)).foldl Openings.or ⟨false, []⟩
          let sorted := openings.steps.foldl (fun sorted step => sortIn step sorted) []
          let (edges, drafts) := sorted.foldl
            (fun (edges, drafts) ((symbol, named), rests) =>
              let (target, drafts) := draw symbolOf fuel rests drafts
              (edges ++ [⟨symbol, named, target⟩], drafts))
            (([] : List Edge), drafts)
          let (node, drafts) := drafts.place ⟨openings.mayEnd, edges⟩
          (node, { drafts with known := (lefts, node) :: drafts.known })

end Drafts

/-! ## The network -/

/-- The rules as a network. -/
structure Network where
  nodes : Array Node
  groups : Array Group
  /-- The groups of each symbol that is no token, the first category first. -/
  groupsOf : Array (List Nat)
  /-- The tokens that begin each symbol. -/
  starters : Array TokenSet
  /-- The tokens that may come next at each node. -/
  next : Array TokenSet
  /-- The ways into each symbol that is no token, sorted by the symbol they begin with. -/
  entrances : Array (Thunk (Array (List Entrance)))
  /-- Whether the parts of each symbol are nodes of a tree. -/
  visible : Array Bool
  /-- Whether they count as parts with a name. -/
  named : Array Bool

namespace Network

/-- What is repeated somewhere, in the order of its symbols. -/
def repetitions (rules : List (Category × Rule)) : List Rule :=
  (List.range Category.count).flatMap (fun i =>
      (rules.filter fun (c, _) => c.ctorIdx = i).flatMap fun (_, rule) => rule.repeated)
    |>.foldl (fun found p => if found.contains p then found else found ++ [p]) []

/-- The alternatives of a rule, those of one rank, side and weight together. -/
def grouped (rule : Rule) : List ((Rank × Option Side × Int) × List (List Rule)) :=
  (rule.alternatives (.number 0) none 0).foldl
    (fun groups (rank, side, weight, p) =>
      if groups.any (·.1 = (rank, side, weight)) then
        groups.map fun (key, ways) =>
          if key = (rank, side, weight) then (key, ways ++ [[p]]) else (key, ways)
      else groups ++ [((rank, side, weight), [[p]])])
    []

/-- The most symbols that a way to write something can have. -/
def longestWay : Nat := 64

/-- The nodes and groups of a grammar. -/
def drawAll (symbolOf : Rule → Symbol) (written : List (Symbol × Option Category × Rule)) :
    Array Node × Array Group :=
  written.foldl
    (fun (nodes, groups) (symbol, category?, rule) =>
      (grouped rule).foldl
        (fun (nodes, groups) ((rank, side, weight), ways) =>
          let (entry, drafts) := Drafts.draw symbolOf longestWay ways ⟨nodes, []⟩
          (drafts.nodes, groups.push ⟨symbol, category?, rank, side, weight, entry⟩))
        (nodes, groups))
    (#[], #[])

/-- The tokens that begin each symbol, from what is known so far. -/
def growStarters (nodes : Array Node) (groups : Array Group) (starters : Array TokenSet) :
    Array TokenSet :=
  groups.foldl
    (fun starters group =>
      let found := ((nodes.getD group.entry ⟨false, []⟩).edges.map fun edge =>
        starters.getD edge.symbol .empty).foldl TokenSet.union .empty
      starters.modify group.symbol found.union)
    starters

/-- Repeats a step until nothing changes, `fuel` times at most. -/
def untilStable {α : Type} [BEq α] (step : α → α) : Nat → α → α
  | 0, a => a
  | fuel + 1, a =>
      let b := step a
      if b == a then a else untilStable step fuel b

/-- How the ways to write one symbol are met at the start of another one: what may follow, and
    whether they may be all of it. -/
structure Reach where
  ahead : TokenSet
  passes : Bool
  deriving DecidableEq

/-- The symbols that are met at the start of a symbol. Each of them is passed on to what it begins
    with itself, until nothing new is found. -/
def reach (nodes : Array Node) (groups : Array Group) (groupsOf : Array (List Nat))
    (next : Array TokenSet) (fuel : Nat) (symbol : Symbol) : Array (Option Reach) :=
  let rec go : Nat → List (Symbol × Reach) → Array (Option Reach) → Array (Option Reach)
    | 0, _, found => found
    | _ + 1, [], found => found
    | fuel + 1, (symbol, new) :: rest, found =>
        let place := symbol - Token.count
        let old := found.getD place none
        let merged : Reach := match old with
          | some r => ⟨r.ahead.union new.ahead, r.passes || new.passes⟩
          | none => new
        if old = some merged then go fuel rest found
        else
          let found := found.setIfInBounds place (some merged)
          let onward := (groupsOf.getD place []).flatMap fun g =>
            (nodes.getD (groups.getD g ⟨0, none, .number 0, none, 0, 0⟩).entry ⟨false, []⟩).edges
              |>.filterMap fun edge =>
                if edge.symbol < Token.count then none
                else
                  let after := nodes.getD edge.target ⟨false, []⟩
                  let follow := next.getD edge.target .empty
                  some (edge.symbol,
                    (⟨if after.accepts then follow.union merged.ahead else follow,
                      after.accepts && merged.passes⟩ : Reach))
          go fuel (onward ++ rest) found
  go fuel [(symbol, ⟨.empty, true⟩)] (Array.replicate groupsOf.size none)

/-- The ways into a symbol, sorted by the symbol they begin with. -/
def entrancesOf (nodes : Array Node) (groups : Array Group) (groupsOf : Array (List Nat))
    (next : Array TokenSet) (symbolCount : Nat) (symbol : Symbol) : Array (List Entrance) :=
  let found := reach nodes groups groupsOf next 100000 symbol
  (List.range groupsOf.size).foldl
    (fun table place =>
      match found.getD place none with
      | none => table
      | some r =>
          (groupsOf.getD place []).foldl
            (fun table g =>
              match groups[g]? with
              | none => table
              | some group =>
                  (nodes.getD group.entry ⟨false, []⟩).edges.foldl
                    (fun table edge =>
                      table.modify edge.symbol
                        (⟨⟨g, edge.target, 1, if edge.named then 1 else 0⟩, r.ahead, r.passes⟩ :: ·))
                    table)
            table)
    (Array.replicate symbolCount [])

/-- The network of some rules for a text that is one part of a category. -/
def ofRules (rules : List (Category × Rule)) (whole : Category) : Network :=
  let repetitions := repetitions rules
  let symbolOf (p : Rule) : Symbol := .firstRepetition + repetitions.findIdx (· = p)
  let last := Symbol.firstRepetition + repetitions.length
  let written : List (Symbol × Option Category × Rule) :=
    (List.range Category.count).flatMap (fun i =>
      (rules.filter fun (c, _) => c.ctorIdx = i).map fun (c, rule) => (.ofCategory c, some c, rule))
    ++ repetitions.map (fun p =>
      (symbolOf p, none, .either (.both (.oneOrMore p) (.oneOrMore p)) p))
    ++ [(last, none, .category whole)]
  let (nodes, groups) := drawAll symbolOf written
  let symbolCount := last + 1
  let groupsOf := (List.range groups.size).foldl
    (fun table g =>
      match groups[g]? with
      | some group => table.modify (group.symbol - Token.count) (· ++ [g])
      | none => table)
    (Array.replicate (symbolCount - Token.count) [])
  let starters := untilStable (growStarters nodes groups) symbolCount
    ((Array.range symbolCount).map fun s => if s < Token.count then TokenSet.single s else .empty)
  let next := nodes.map fun node =>
    (node.edges.map fun edge => starters.getD edge.symbol .empty).foldl TokenSet.union .empty
  let visible := written.map fun (_, (category? : Option Category), _) =>
    (category?.map Category.isVisible).getD false
  { nodes, groups, groupsOf, starters, next
    entrances := (Array.range groupsOf.size).map fun place =>
      Thunk.mk fun _ =>
        entrancesOf nodes groups groupsOf next symbolCount (Token.count + place)
    visible := (Token.all.map Token.isVisible ++ visible).toArray
    named := (Token.all.map Token.isNamed ++ visible).toArray }

def snippets : Thunk Network := Thunk.mk fun _ => ofRules Grammar.rules .snippet

end Network

end CodeBlock.Snippet
