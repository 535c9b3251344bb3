import CodeBlock.Shell.Records.Action
import CodeBlock.Shell.Records.Text

set_option autoImplicit false

/-! # Running scripts over records

Expressions are evaluated from left to right. Where a value is stored is found before the value is. A
record that is read becomes the value of the whole field, and the rules are gone through for it. -/

namespace CodeBlock.Shell.Records

/-! ## Numbers -/

/-- A function of numbers, on those that the machine calculates with. -/
def calculated (f : Float → Float) (x : Binary64) : Binary64 :=
  .ofBits (f (Float.ofBits x.toBits.toUInt64)).toBits.toNat

/-- A function of two numbers, on those that the machine calculates with. -/
def calculated₂ (f : Float → Float → Float) (x y : Binary64) : Binary64 :=
  .ofBits (f (Float.ofBits x.toBits.toUInt64) (Float.ofBits y.toBits.toUInt64)).toBits.toNat

/-- The value of an operator. -/
def Arithmetic.apply (operator : Arithmetic) (a b : Binary64) : Binary64 :=
  match operator with
  | add => a.add b
  | sub => a.sub b
  | mul => a.mul b
  | div => a.div b
  | rem => a.rem b
  | pow => calculated₂ Float.pow a b

/-- Whether two values stand in a relation. -/
def Comparison.holds (operator : Comparison) (order : Ordering) : Bool :=
  match operator with
  | less => order == .lt
  | lessEqual => order != .gt
  | equal => order == .eq
  | notEqual => order != .eq
  | greater => order == .gt
  | greaterEqual => order != .lt

/-! ## Expressions and statements -/

section

variable (run : Runner)

open Records.Action

/-- Runs a round of a loop; gives whether the loop goes on. -/
def oneRound (body : Action Unit) : Action Bool :=
  tryCatch (do body; return true) fun stop =>
    match stop with
    | .leave => return false
    | .again => return true
    | stop => throw stop

/-- How many arguments all calls around may have. -/
def argumentLimit : Nat := 1020

mutual

/-- The value of an expression. -/
def evaluate : Nat → Expr → Action Value
  | 0, _ => throw .halted
  | fuel + 1, e => do
      match e with
      | .number x => return .number x
      | .text s => return .text s
      | .pattern r => return .ofBool (r.occursIn (← textOf (← get).record))
      | .named name => return (← get).get name
      | .field _ => read (← slotOf fuel e)
      | .element _ _ => read (← slotOf fuel e)
      | .assign target value =>
          let slot ← slotOf fuel target
          let v ← evaluate fuel value
          store slot v
          return v
      | .update operator target value =>
          let slot ← slotOf fuel target
          -- what is added is evaluated before the old value is read
          let b := (← evaluate fuel value).toNumber
          let a := (← read slot).toNumber
          let v := Value.number (operator.apply a b)
          store slot v
          return v
      | .count up before target =>
          let slot ← slotOf fuel target
          let old := (← read slot).toNumber
          let one := Binary64.ofNat 1
          let new := if up then old.add one else old.sub one
          store slot (.number new)
          return .number (if before then new else old)
      | .choose condition yes no =>
          if (← evaluate fuel condition).isTrue then evaluate fuel yes else evaluate fuel no
      | .or a b =>
          if (← evaluate fuel a).isTrue then return .ofBool true
          return .ofBool (← evaluate fuel b).isTrue
      | .and a b =>
          if (← evaluate fuel a).isTrue then return .ofBool (← evaluate fuel b).isTrue
          return .ofBool false
      | .not a => return .ofBool !(← evaluate fuel a).isTrue
      | .minus a => return .number (← evaluate fuel a).toNumber.neg
      | .plus a => return .number (← evaluate fuel a).toNumber
      | .arithmetic operator a b =>
          let a := (← evaluate fuel a).toNumber
          let b := (← evaluate fuel b).toNumber
          return .number (operator.apply a b)
      | .compare operator a b =>
          let a ← evaluate fuel a
          let b ← evaluate fuel b
          return .ofBool (operator.holds (a.compare (← get).write b))
      | .join a b =>
          let a ← textOf (← evaluate fuel a)
          let b ← textOf (← evaluate fuel b)
          return .text (a ++ b)
      | .fits negated a pattern =>
          let text ← textOf (← evaluate fuel a)
          let r ← regexFrom fuel pattern
          return .ofBool (r.occursIn text != negated)
      | .isKey key table =>
          let key ← keyFrom fuel key
          let (number, s) := (← get).tableOf table
          let (key, s) := s.findKey number false key
          set s
          return .ofBool ((s.tables.getD number .empty).contains key)
      | .call name given => call fuel name given
      | .apply f given => apply fuel f given
      | .readRecord target =>
          match ← takeRecord with
          | some record =>
              keep fuel target record
              return .ofNat 1
          | none => return .ofNat 0
      | .readFile target file =>
          let name ← textOf (← evaluate fuel file)
          readFrom fuel target (← takeFrom run false name)
      | .readCommand target command =>
          let name ← textOf (← evaluate fuel command)
          readFrom fuel target (← takeFrom run true name)
      | .grouped inner => evaluate fuel inner

/-- Stores a record that was read, as the record if no target is given. -/
def keep : Nat → Option Expr → List Char → Action Unit
  | 0, _, _ => throw .halted
  | fuel + 1, target, record => do
      match target with
      | some target => store (← slotOf fuel target) (.ofInput record)
      | none => modify (·.setRecord (.ofInput record))

/-- The value of reading, and the record stored if there was one. -/
def readFrom : Nat → Option Expr → Except Unit (Option (List Char)) → Action Value
  | 0, _, _ => throw .halted
  | fuel + 1, target, found => do
      match found with
      | .error _ => return .number (Binary64.ofInt (-1))
      | .ok none => return .ofNat 0
      | .ok (some record) =>
          keep fuel target record
          return .ofNat 1

/-- Where the value of a target is stored. -/
def slotOf : Nat → Expr → Action Slot
  | 0, _ => throw .halted
  | fuel + 1, e => do
      match e with
      | .named name => return .named name
      | .field index =>
          let n := (← evaluate fuel index).toWhole
          if n < 0 then fail ("negative field index $".toList ++ (toString n).toList)
          return .field (min n.toNat Session.greatestCount)
      | .element table key =>
          let key ← keyFrom fuel key
          let (number, s) := (← get).tableOf table
          let (key, s) := s.findKey number true key
          set s
          return .element number key
      | .grouped inner => slotOf fuel inner
      | _ => throw .halted

/-- The key that some expressions make. -/
def keyFrom : Nat → List Expr → Action Value
  | 0, _ => throw .halted
  | fuel + 1, key => do
      match key with
      | [e] => evaluate fuel e
      | key =>
          let texts ← textsFrom fuel key
          return .text (texts.intersperse ((← get).setting "SUBSEP")).flatten

/-- The texts of some expressions. -/
def textsFrom : Nat → List Expr → Action (List (List Char))
  | 0, _ => throw .halted
  | _ + 1, [] => return []
  | fuel + 1, e :: rest => do
      let text ← textOf (← evaluate fuel e)
      return text :: (← textsFrom fuel rest)

/-- The values of some expressions. -/
def valuesFrom : Nat → List Expr → Action (List Value)
  | 0, _ => throw .halted
  | _ + 1, [] => return []
  | fuel + 1, e :: rest => do
      let v ← evaluate fuel e
      return v :: (← valuesFrom fuel rest)

/-- What is to be fitted: a constant, or a text. -/
def regexFrom : Nat → Expr → Action Regex
  | 0, _ => throw .halted
  | fuel + 1, e => do
      match e with
      | .pattern r => return r
      | .grouped inner => regexFrom fuel inner
      | e => regex (← textOf (← evaluate fuel e))

/-- The value of a function without a definition. -/
def apply : Nat → Function → List Expr → Action Value
  | 0, _, _ => throw .halted
  | fuel + 1, f, given => do
      let number := fun (e : Expr) => do return (← evaluate fuel e).toNumber
      match f, given with
      | .length, [] => return .ofNat (← textOf (← get).record).length
      | .length, [e] =>
          -- of a table it is how many elements it has
          match (← get).tableIn? e with
          | some number => return .ofNat ((← get).tables.getD number .empty).size
          | none => return .ofNat (← textOf (← evaluate fuel e)).length
      | .substr, e :: start :: length =>
          let text ← textOf (← evaluate fuel e)
          let start := (← evaluate fuel start).toWhole
          let length ← match length with
            | [] => pure none
            | length :: _ => pure (some (← evaluate fuel length).toWhole)
          return .text (partOf text start length)
      | .index, [e, part] =>
          let text ← textOf (← evaluate fuel e)
          let part ← textOf (← evaluate fuel part)
          return .ofNat (placeOf part 1 text)
      | .split, e :: .named table :: separator =>
          let text ← textOf (← evaluate fuel e)
          let separator ← match separator with
            | [] => pure (← get).separator
            | .pattern r :: _ => pure (.fitting r)
            | e :: _ =>
                let text ← textOf (← evaluate fuel e)
                match Session.separatorOf text with
                | .ok separator => pure separator
                | .error e => fail (failureText e text)
          storeParts table (separator.split text)
      | .sub, pattern :: new :: target => replace fuel 1 pattern new target
      | .gsub, pattern :: new :: target => replace fuel (2 ^ 30) pattern new target
      | .fit, [e, pattern] =>
          let text ← textOf (← evaluate fuel e)
          let r ← regexFrom fuel pattern
          let (start, length) : Int × Int := match r.find? (.atStart text) with
            | some f => (f.start.offset + 1, f.stop.offset - f.start.offset)
            | none => (0, -1)
          modify fun s =>
            (s.setGlobal "RSTART" (.number (.ofInt start))).setGlobal "RLENGTH" (.number (.ofInt length))
          return .number (.ofInt start)
      | .sprintf, format :: values =>
          let format ← textOf (← evaluate fuel format)
          let values ← valuesFrom fuel values
          match fillFormat (← get).write (format.length + 1) 1 format values with
          | (text, none) => return .text text
          | (_, some fault) => fail (fault.message "sprintf" format)
      | .sin, [e] => return .number (calculated Float.sin (← number e))
      | .cos, [e] => return .number (calculated Float.cos (← number e))
      | .exp, [e] => return .number (calculated Float.exp (← number e))
      | .log, [e] => return .number (calculated Float.log (← number e))
      | .sqrt, [e] => return .number (calculated Float.sqrt (← number e))
      | .atan2, [a, b] =>
          let a ← number a
          return .number (calculated₂ Float.atan2 a (← number b))
      | .int, [e] => return .number (← number e).truncate
      | .rand, _ =>
          -- the seed is the last number, before it was brought below one
          let x := ((← get).seed.toNumber.mul (.ofNat 16807)).add (.ofNat 12345)
          let x := x.rem (.ofNat 2147483647)
          modify fun s => { s with seed := .number x }
          return .number (x.div (.ofNat 2147483647))
      | .srand, given =>
          let new ← match given with
            | [] => pure (.number (.ofNat ((← get).machine.clock / 1000000)))
            | e :: _ => evaluate fuel e
          let old := (← get).seed
          modify fun s => { s with seed := new }
          return old
      | .toLower, [e] => return .text ((← textOf (← evaluate fuel e)).map Char.toLower)
      | .toUpper, [e] => return .text ((← textOf (← evaluate fuel e)).map Char.toUpper)
      | .system, [e] =>
          let command ← textOf (← evaluate fuel e)
          let (status, s) := (← get).flushAll.runCommand run command none
          set s
          checkMachine
          return .ofNat status
      | .close, [e] =>
          let name ← textOf (← evaluate fuel e)
          return .number (.ofInt (← close run name))
      | .flush, given =>
          let _ ← valuesFrom fuel given
          modify (·.flushAll)
          return .ofNat 0
      | _, _ => return .unset

/-- Replaces parts of a target. -/
def replace : Nat → Nat → Expr → Expr → List Expr → Action Value
  | 0, _, _, _, _ => throw .halted
  | fuel + 1, limit, pattern, new, target => do
      let r ← regexFrom fuel pattern
      let new ← textOf (← evaluate fuel new)
      let target := target.headD (.field (.number (.ofNat 0)))
      let isStored := match target with
        | .grouped inner => inner.isTarget
        | e => e.isTarget
      if isStored then
        let slot ← slotOf fuel target
        let text ← textOf (← read slot)
        let (text, count) := substitute r new (text.length + 2) false limit (.atStart text)
        if 0 < count then store slot (.text text)
        return .ofNat count
      let text ← textOf (← evaluate fuel target)
      return .ofNat (substitute r new (text.length + 2) false limit (.atStart text)).2

/-- What the arguments of a function hold. -/
def cellsFrom : Nat → List Expr → Action (List Cell)
  | 0, _ => throw .halted
  | _ + 1, [] => return []
  | fuel + 1, e :: rest => do
      let cell ← match e with
        | .named name => do
            match (← get).cell? name with
            | some (.value .unset) => shared name
            | none => shared name
            | some cell => pure cell
        | e => do pure (.value (← evaluate fuel e))
      return cell :: (← cellsFrom fuel rest)

/-- The value of a function with a definition. -/
def call : Nat → String → List Expr → Action Value
  | 0, _, _ => throw .halted
  | fuel + 1, name, given => do
      let s ← get
      match s.script.definitions.lookup name with
      | none => return .unset
      | some d =>
          let cells ← cellsFrom fuel given
          let s ← get
          let depth := s.depth + max 1 d.parameters.length
          if argumentLimit < depth then
            throw (.failed "program limit exceeded: eval stack size=1024".toList)
          let missing := List.replicate (d.parameters.length - cells.length) (Cell.value .unset)
          set { s with locals := d.parameters.zip (cells ++ missing), depth := depth }
          let back := fun (inner : Session) => { inner with locals := s.locals, depth := s.depth }
          tryCatch (do
            statements fuel d.body
            modify back
            return .unset) fun stop => do
              modify back
              match stop with
              | .giveBack v => return v
              | stop => throw stop

/-- Runs some statements. -/
def statements : Nat → List Statement → Action Unit
  | 0, _ => throw .halted
  | _ + 1, [] => return
  | fuel + 1, s :: rest => do
      execute fuel s
      statements fuel rest

/-- Prints a text where a statement says. -/
def printText : Nat → Option Target → List Char → Action Unit
  | 0, _, _ => throw .halted
  | fuel + 1, target, text => do
      match target with
      | none => modify (·.print text)
      | some (.file e) => printTo (← textOf (← evaluate fuel e)) false false text
      | some (.fileEnd e) => printTo (← textOf (← evaluate fuel e)) false true text
      | some (.command e) => printTo (← textOf (← evaluate fuel e)) true false text

/-- Runs a statement. -/
def execute : Nat → Statement → Action Unit
  | 0, _ => throw .halted
  | fuel + 1, statement => do
      match statement with
      | .evaluate e => let _ ← evaluate fuel e
      | .print values target =>
          let values ← if values.isEmpty then pure [(← get).record] else valuesFrom fuel values
          let s ← get
          let texts := values.map (Value.toText (numberText (s.setting "OFMT")))
          printText fuel target
            ((texts.intersperse (s.setting "OFS")).flatten ++ s.setting "ORS")
      | .printf values target =>
          let values ← valuesFrom fuel values
          let format ← textOf (values.headD .unset)
          let (text, fault) :=
            fillFormat (← get).write (format.length + 1) 1 format (values.drop 1)
          printText fuel target text
          match fault with
          | none => pure ()
          | some fault => fail (fault.message "printf" format)
      | .branch condition yes no =>
          if (← evaluate fuel condition).isTrue then statements fuel yes else statements fuel no
      | .loop condition body => loop fuel (some condition) [] body
      | .loopAfter body condition =>
          if ← oneRound (statements fuel body) then loop fuel (some condition) [] body
      | .loopFor start condition step body =>
          statements fuel start
          loop fuel condition step body
      | .each name table body =>
          let (number, s) := (← get).tableOf table
          -- the loop goes over the keys that are there when it starts
          let t := (s.tables.getD number .empty).ordered
          set (s.setTable number t)
          each fuel name body t.keys
      | .next => throw .next
      | .nextFile => throw .nextFile
      | .exit status =>
          match status with
          | none => pure ()
          | some e =>
              let status := (← evaluate fuel e).toWhole
              modify fun s => { s with status := (status % 256).toNat }
          throw .exit
      | .giveBack value =>
          match value with
          | none => throw (.giveBack .unset)
          | some e => throw (.giveBack (← evaluate fuel e))
      | .leave => throw .leave
      | .again => throw .again
      | .delete table key =>
          match key with
          | none =>
              let (number, s) := (← get).tableOf table
              set (s.setTable number .empty)
          | some key =>
              let key ← keyFrom fuel key
              let (number, s) := (← get).tableOf table
              let (key, s) := s.findKey number false key
              set (s.setTable number ((s.tables.getD number .empty).erase key))
      | .block body => statements fuel body

/-- Runs a loop. -/
def loop : Nat → Option Expr → List Statement → List Statement → Action Unit
  | 0, _, _, _ => throw .halted
  | fuel + 1, condition, step, body => do
      let holds ← match condition with
        | none => pure true
        | some e => do pure (← evaluate fuel e).isTrue
      if holds then
        if ← oneRound (statements fuel body) then
          statements fuel step
          loop fuel condition step body

/-- Runs a loop over keys. -/
def each : Nat → String → List Statement → List (List Char) → Action Unit
  | 0, _, _, _ => throw .halted
  | _ + 1, _, _, [] => return
  | fuel + 1, name, body, key :: keys => do
      store (.named name) (.text key)
      if ← oneRound (statements fuel body) then each fuel name body keys

end

/-! ## Rules -/

/-- Whether a rule is meant for the record. -/
def applies (fuel : Nat) (rule : Rule) : Action Bool := do
  match rule.condition with
  | .always => return true
  | .holds e => return (← evaluate run fuel e).isTrue
  | .between first last =>
      let isWithin := (← get).within.contains rule.number
      let starts ← if isWithin then pure true else do pure (← evaluate run fuel first).isTrue
      if starts then
        let ends ← evaluate run fuel last
        modify fun s =>
          let others := s.within.filter (· != rule.number)
          { s with within := if ends.isTrue then others else rule.number :: others }
        return true
      return false
  | _ => return false

def runRules (fuel : Nat) : List Rule → Action Unit
  | [] => return
  | rule :: rules => do
      if ← applies run fuel rule then
        statements run fuel (rule.body.getD [.print [] none])
      runRules fuel rules

/-- Reads the records and runs rules for them. -/
def readAll (limit : Nat) (rules : List Rule) : Nat → Action Unit
  | 0 => throw .halted
  | fuel + 1 => do
      match ← takeRecord with
      | none => return
      | some record =>
          modify (·.setRecord (.ofInput record))
          tryCatch (runRules run limit rules) fun stop => do
            match stop with
            | .next => pure ()
            | .nextFile => modify fun s => { s with pending := none }
            | stop => throw stop
          readAll limit rules fuel

/-- Runs statements whose `exit` ends no more than them; gives whether they were left by it. -/
def untilExit (body : Action Unit) : Action Bool :=
  tryCatch (do body; return false) fun stop =>
    match stop with
    | .exit => return true
    | stop => throw stop

/-- How many steps a run may take. -/
def stepLimit : Nat := 3000000

/-- Runs a script. -/
def runScript : Action Unit := do
  let rules := (← get).script.rules
  let atEdge := fun (isStart : Bool) => rules.filter fun rule =>
    match rule.condition with
    | .atStart => isStart
    | .atEnd => !isStart
    | _ => false
  let others := rules.filter fun rule =>
    match rule.condition with
    | .atStart => false
    | .atEnd => false
    | _ => true
  let bodies := fun (rules : List Rule) => (rules.filterMap (·.body)).flatten
  let left ← untilExit do
    statements run stepLimit (bodies (atEdge true))
    if !others.isEmpty || !(atEdge false).isEmpty then readAll run stepLimit others stepLimit
  let _ := left
  let _ ← untilExit (statements run stepLimit (bodies (atEdge false)))

end

end CodeBlock.Shell.Records
