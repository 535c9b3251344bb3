import CodeBlock.Snippet.Network

set_option autoImplicit false

/-! # States of reading

While a text is read, a state says which rules are at which place: it holds the items that are open,
each with the tokens that may follow when it is complete. From a state a symbol leads to the next one.
On a token there may be several **actions**: an item that is complete makes its parts one part of its
symbol, and items that go on with the token take it in. Ranks and sides settle which of these are
done; what they leave open is done in every way. The state with no item at all is the one in which
nothing can be read as the grammar wants it. -/

namespace CodeBlock.Snippet

/-- An open item, and the tokens that may follow it. -/
structure Entry where
  item : Item
  ahead : TokenSet
  deriving DecidableEq, Repr

/-- The open items, in order. -/
abbrev State := List Entry

namespace Item

/-- The order of items. -/
def isBefore (a b : Item) : Bool :=
  a.group < b.group || (a.group == b.group &&
    (a.node < b.node || (a.node == b.node &&
      (a.count < b.count || (a.count == b.count && a.marks < b.marks)))))

end Item

namespace State

/-- The state in which no rule is open. -/
def stuck : State := []

/-- Adds an item to a state. -/
def insert (entry : Entry) : State → State
  | [] => [entry]
  | other :: rest =>
      if entry.item = other.item then { other with ahead := other.ahead.union entry.ahead } :: rest
      else if entry.item.isBefore other.item then entry :: other :: rest
      else other :: insert entry rest

end State

namespace Network

def node (net : Network) (item : Item) : Node := net.nodes.getD item.node ⟨false, []⟩

def group (net : Network) (item : Item) : Group :=
  net.groups.getD item.group ⟨0, none, .number 0, none, 0, 0⟩

def whole (net : Network) : Symbol := Token.count + net.groupsOf.size - 1

def isRepetition (net : Network) (symbol : Symbol) : Bool :=
  Symbol.firstRepetition ≤ symbol && symbol < net.whole

/-- Whether the rule of an item may end where the item is. -/
def isComplete (net : Network) (item : Item) : Bool := (net.node item).accepts

def nextTokens (net : Network) (item : Item) : TokenSet := net.next.getD item.node .empty

def entrancesOver (net : Network) (entered passed : Symbol) : List Entrance :=
  ((net.entrances.getD (entered - Token.count) (Thunk.mk fun _ => #[])).get).getD passed []

end Network

namespace State

/-- What is added to a state when an item goes over an edge: the item after the edge, if the symbol
    is on it; and the ways into the symbol of the edge over the symbol. -/
def addOver (net : Network) (symbol : Symbol) (entry : Entry) (edge : Edge) (state : State) :
    State :=
  let moved :=
    if edge.symbol = symbol then
      state.insert
        ⟨⟨entry.item.group, edge.target, entry.item.count + 1,
          if edge.named then entry.item.marks ||| (1 <<< entry.item.count) else entry.item.marks⟩,
          entry.ahead⟩
    else state
  if edge.symbol < Token.count then moved
  else
    match net.entrancesOver edge.symbol symbol with
    | [] => moved
    | entrances =>
        let after := net.nodes.getD edge.target ⟨false, []⟩
        let follow := net.next.getD edge.target .empty
        let follow := if after.accepts then follow.union entry.ahead else follow
        entrances.foldl
          (fun state entrance => state.insert
            ⟨entrance.item,
              if entrance.passes then entrance.ahead.union follow else entrance.ahead⟩)
          moved

/-- The state to which a symbol leads. -/
def stepOver (net : Network) (state : State) (symbol : Symbol) : State :=
  state.foldl
    (fun found entry =>
      (net.node entry.item).edges.foldl (fun found edge => addOver net symbol entry edge found) found)
    stuck

/-- The state at the start of a text. -/
def initial (net : Network) : State :=
  let finish := TokenSet.single Token.finish.index
  let entriesOf (symbol : Symbol) : List Entry :=
    (net.groupsOf.getD (symbol - Token.count) []).map fun g =>
      ⟨⟨g, (net.groups.getD g ⟨0, none, .number 0, none, 0, 0⟩).entry, 0, 0⟩, finish⟩
  (entriesOf net.whole ++ entriesOf (.ofCategory .snippet)).foldl (fun state e => state.insert e) []

/-! ## Actions -/

/-- The tokens that no state expects: only the scanner of a string or of a regular expression does. -/
def unexpectedWhenStuck : TokenSet :=
  .ofList [.doubleText, .singleText, .regexBody, .regexFlags, .fixed "?:"]

/-- The comments, which may stand anywhere. -/
def comments : TokenSet := .ofList [.comment, .markup]

/-- The tokens that can come next in a state. -/
def expected (net : Network) (state : State) : TokenSet :=
  if state.isEmpty then
    TokenSet.without ((1 <<< Token.count) - 1 : Nat) unexpectedWhenStuck
  else
    state.foldl
      (fun found entry =>
        let found := found.union (net.nextTokens entry.item)
        if net.isComplete entry.item then found.union entry.ahead else found)
      comments

end State

/-- That some parts become one part: its symbol, how many they are, what the rule weighs, and which
    parts count as named. -/
structure Reduction where
  symbol : Symbol
  count : Nat
  weight : Int
  marks : Nat
  deriving DecidableEq, Repr

/-- Whether a token is taken in. -/
inductive Taking where
  | never
  | always
  /-- Only as another way to go on with a repetition, which is also tried without it. -/
  | again
  deriving DecidableEq, Repr

/-- What is done on a token. -/
structure Actions where
  reductions : List Reduction
  taking : Taking
  /-- Whether the text is complete. -/
  accepts : Bool
  /-- Whether the token is a comment, which stays outside of the rules. -/
  comment : Bool
  deriving Repr

namespace Actions

/-- Nothing is done. -/
def none : Actions := ⟨[], .never, false, false⟩

end Actions

/-- The complete items that are to be made one part, and what tells how firmly they bind. -/
structure Contest where
  reductions : List Reduction
  rank : Rank
  symbols : List Symbol
  categories : List Category
  sides : List (Option Side)

namespace State

def rankOf (net : Network) (item : Item) : Rank :=
  if item.count = 0 then .number 0 else (net.group item).rank

def sideOf (net : Network) (item : Item) : Option Side :=
  if item.count = 0 then Option.none else (net.group item).side

def completesBefore (net : Network) (a b : Item) : Bool :=
  a.count < b.count || (a.count == b.count &&
    ((net.group a).symbol < (net.group b).symbol ||
      ((net.group a).symbol == (net.group b).symbol && (net.group a).weight < (net.group b).weight)))

/-- Adds a complete item to those that are to be made one part: it takes their place if it binds more
    firmly than they do, and is left out if it binds less firmly. -/
def contend (net : Network) (item : Item) (contest : Contest) : Contest :=
  let group := net.group item
  let categories := group.category?.toList
  let alone : Contest :=
    ⟨[⟨group.symbol, item.count, group.weight, item.marks⟩], rankOf net item, [group.symbol],
      categories, [sideOf net item]⟩
  if contest.reductions.isEmpty then alone
  else
    match Grammar.comparePrecedence (rankOf net item) categories contest.rank contest.categories with
    | .gt => alone
    | .lt => contest
    | .eq =>
        { reductions := contest.reductions ++ alone.reductions
          rank := alone.rank
          symbols := contest.symbols ++ alone.symbols
          categories := contest.categories ++ alone.categories
          sides := contest.sides ++ alone.sides }

/-- The complete items that a token may follow. -/
def completeOn (net : Network) (state : State) (token : Nat) : List Item :=
  (state.filter fun entry => net.isComplete entry.item && entry.ahead.has token)
    |>.map Entry.item |>.mergeSort (fun a b => !completesBefore net b a)

/-- Settles whether complete items are made one part or a token is taken in, where both could be. -/
def settle (net : Network) (state : State) (token : Nat) (contest : Contest) :
    List Reduction × Taking :=
  let goingOn := (state.map Entry.item).filter fun item =>
    item.count > 0 && (net.nextTokens item).has token
  let involved := goingOn ++ completeOn net state token
  match involved.map fun item => (net.group item).symbol with
  | symbol :: symbols =>
      -- a repetition is made one part and goes on as well
      if net.isRepetition symbol && symbols.all (· == symbol) then (contest.reductions, .again)
      else
        let ranks := goingOn.map fun item =>
          Grammar.comparePrecedence (rankOf net item) (net.group item).category?.toList
            contest.rank contest.categories
        match ranks.contains .gt, ranks.contains .lt with
        | true, false => ([], .always)
        | false, true => (contest.reductions, .never)
        | true, true => (contest.reductions, .always)
        | false, false =>
            -- the ranks leave it open, so the sides decide
            if contest.sides.all (· = some .left) then (contest.reductions, .never)
            else if contest.sides.all (· = some .right) then ([], .always)
            else (contest.reductions, .always)
  | [] => (contest.reductions, .always)

/-- What is done in a state on a token. -/
def actionsOn (net : Network) (state : State) (token : Nat) : Actions :=
  let complete := completeOn net state token
  let accepts := complete.any fun item => (net.group item).symbol == net.whole
  let contest := (complete.filter fun item => (net.group item).symbol != net.whole).foldl
    (fun contest item => contend net item contest) ⟨[], .number 0, [], [], []⟩
  let goesOn := state.any fun entry => (net.nextTokens entry.item).has token
  if !goesOn then
    ⟨contest.reductions, .never, accepts,
      !state.isEmpty && contest.reductions.isEmpty && !accepts && comments.has token⟩
  else if contest.reductions.isEmpty then ⟨[], .always, accepts, false⟩
  else
    let (reductions, taking) := settle net state token contest
    ⟨reductions, taking, accepts, false⟩

/-! ## Going on -/

/-- The symbol of which all that has been read in a state is the only part, if that is all that can
    be said, and a part of the symbol leaves no trace in a tree. -/
def onlyPart? (net : Network) (state : State) : Option Symbol :=
  let leavesNoTrace (r : Reduction) : Bool :=
    r.count == 1 && r.marks == 0 && r.weight == 0 &&
      (net.isRepetition r.symbol ||
        ((net.groupsOf.getD (r.symbol - Token.count) []).any fun g =>
          ((net.groups.getD g ⟨0, Option.none, .number 0, Option.none, 0, 0⟩).category?.map
            Category.isPiece).getD false))
  if state.any fun entry => !(net.node entry.item).edges.isEmpty then Option.none
  else
    let candidates := state.map fun entry =>
      let group := net.group entry.item
      (⟨group.symbol, entry.item.count, group.weight, entry.item.marks⟩ : Reduction)
    match candidates with
    | [] => Option.none
    | first :: others =>
        if others.isEmpty then (if leavesNoTrace first then some first.symbol else Option.none)
        else if !candidates.any leavesNoTrace then Option.none
        else
          let tokens :=
            (state.foldl (fun (found : TokenSet) entry => found.union entry.ahead) .empty).toList
          let done := tokens.map fun token => actionsOn net state token
          if done.any (·.accepts) then Option.none
          else
            match done.flatMap (·.reductions) with
            | [] => Option.none
            | r :: rs =>
                if leavesNoTrace r && rs.all (fun r' => leavesNoTrace r' && r'.symbol == r.symbol)
                then some r.symbol else Option.none

/-- Goes on over symbols that leave no trace. -/
def skipTraceless (net : Network) (origin : State) : Nat → State → State
  | 0, state => state
  | fuel + 1, state =>
      match onlyPart? net state with
      | Option.none => state
      | some symbol =>
          match stepOver net origin symbol with
          | [] => state
          | further => skipTraceless net origin fuel further

/-- The most rules that are each the only part of another one. -/
def deepestChain : Nat := 32

/-- The state in which reading goes on after a symbol. -/
def after (net : Network) (state : State) (symbol : Symbol) : State :=
  skipTraceless net state deepestChain (stepOver net state symbol)

def afterToken (net : Network) (state : State) (token : Nat) (actions : Actions) : State :=
  if actions.taking != .never then after net state token
  else if actions.comment then state
  else stuck

end State

end CodeBlock.Snippet
