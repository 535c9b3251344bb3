import CodeBlock.Shell.Records.Lexer

set_option autoImplicit false

/-! # Reading scripts over records

Operators bind in levels: the choice, or, and, keys of tables, fitting, comparisons, joining, sums,
products, signs, powers. Texts are joined by standing side by side, so a sign between two operands
always adds or takes away. In a statement that prints, a greater sign outside parentheses names a file.
-/

namespace CodeBlock.Shell.Records

/-- Where in a script something stands. -/
inductive Place where
  | edge
  | rule
  | definition (name : String)
  deriving DecidableEq, Repr

/-- How far a script has been read. -/
structure Progress where
  tokens : List Lexeme
  /-- The names that are known, and whether they are tables. -/
  kinds : List (String × Bool)
  /-- The names that belong to the function that is read, and whether they are known to be tables. -/
  locals : List (String × Option Bool)
  place : Place
  /-- The number of loops around. -/
  loops : Nat
  /-- The number of parentheses that are open. -/
  depth : Nat
  /-- The calls of functions, with the number of arguments. -/
  calls : List (String × Nat)
  rules : List Rule
  definitions : List (String × Definition)

abbrev Reading := StateT Progress (Except Fault)

namespace Reading

/-! ## Tokens -/

/-- The next token. -/
def peek : Reading Token := do
  return ((← get).tokens.head?.map (·.token)).getD .stop

/-- The token behind the next one. -/
def peekSecond : Reading Token := do
  return (((← get).tokens.drop 1).head?.map (·.token)).getD .stop

/-- Goes past a token. -/
def advance : Reading Unit := modify fun p =>
  let p := match p.tokens with
    | ⟨.sign "(", _, _⟩ :: _ => { p with depth := p.depth + 1 }
    | ⟨.sign ")", _, _⟩ :: _ => { p with depth := p.depth - 1 }
    | _ => p
  { p with tokens := p.tokens.drop 1 }

/-- Gives up at the line of the next token. -/
def refuse {α : Type} (message : List Char) : Reading α := do
  let line := ((← get).tokens.head?.map (·.line)).getD 1
  throw ⟨line, message, false⟩

/-- Gives up as the next token cannot stand where it does. -/
def refuseToken {α : Type} : Reading α := do
  let p ← get
  let lexeme := p.tokens.head?.getD ⟨.stop, 1, []⟩
  let shown := match lexeme.token with
    | .newline => "end of line".toList
    | .stop => "end of line".toList
    | _ => lexeme.written
  let unexpected := "syntax error at or near ".toList ++ shown
  match lexeme.token with
  | .sign s =>
      if s = ")" && p.depth = 0 then refuse "extra ')'".toList
      else if s = "\x7d" && p.depth != 0 then refuse ("missing ) near ".toList ++ shown)
      else refuse unexpected
  | .newline =>
      if p.depth = 0 then refuse unexpected else refuse ("missing ) near ".toList ++ shown)
  | _ => refuse unexpected

/-- Whether the next token is a sign; then goes past it. -/
def takesSign (s : String) : Reading Bool := do
  if (← peek) = .sign s then
    advance
    return true
  return false

/-- Goes past a sign that has to be there. -/
def expect (s : String) : Reading Unit := do
  unless ← takesSign s do refuseToken

/-- Goes past line ends. -/
def skipNewlines : Reading Unit := modify fun p =>
  { p with tokens := p.tokens.dropWhile (·.token == .newline) }

/-- Goes past line ends and semicolons. -/
def skipEnds : Reading Unit := modify fun p =>
  { p with tokens := p.tokens.dropWhile fun l => l.token == .newline || l.token == .sign ";" }

/-! ## Names -/

/-- Notes whether a name is that of a table; gives up if it is known to be the other thing. -/
def note (name : String) (isTable : Bool) : Reading Unit := do
  let p ← get
  let clash : Reading Unit :=
    refuse (("illegal reference to " ++ (if isTable then "variable " else "array ") ++ name).toList)
  match p.locals.lookup name with
  | some (some known) => if known = isTable then pure () else clash
  | some none =>
      set { p with locals := p.locals.map fun (n, k) => (n, if n = name then some isTable else k) }
  | none =>
      match p.kinds.lookup name with
      | some known => if known = isTable then pure () else clash
      | none => set { p with kinds := (name, isTable) :: p.kinds }

/-- Whether a name stands for something that is no function. -/
def isKnown (name : String) : Reading Bool := do
  let p ← get
  return (p.locals.lookup name).isSome || (p.kinds.lookup name).isSome

/-! ## Operators -/

/-- The operator of a level that a token is. -/
def operatorAt? (level : Nat) (noGreater : Bool) (token : Token) : Option (Expr → Expr → Expr) :=
  match level, token with
  | 0, .sign "||" => some .or
  | 1, .sign "&&" => some .and
  | 3, .sign "~" => some (.fits false)
  | 3, .sign "!~" => some (.fits true)
  | 4, .sign "<" => some (.compare .less)
  | 4, .sign "<=" => some (.compare .lessEqual)
  | 4, .sign "==" => some (.compare .equal)
  | 4, .sign "!=" => some (.compare .notEqual)
  | 4, .sign ">" => if noGreater then none else some (.compare .greater)
  | 4, .sign ">=" => some (.compare .greaterEqual)
  | 6, .sign "+" => some (.arithmetic .add)
  | 6, .sign "-" => some (.arithmetic .sub)
  | 7, .sign "*" => some (.arithmetic .mul)
  | 7, .sign "/" => some (.arithmetic .div)
  | 7, .sign "%" => some (.arithmetic .rem)
  | _, _ => none

/-- What an operator that stores a value does with the target and the value. -/
def storing? (token : Token) : Option (Expr → Expr → Expr) :=
  match token with
  | .sign "=" => some .assign
  | .sign "+=" => some (.update .add)
  | .sign "-=" => some (.update .sub)
  | .sign "*=" => some (.update .mul)
  | .sign "/=" => some (.update .div)
  | .sign "%=" => some (.update .rem)
  | .sign "^=" => some (.update .pow)
  | _ => none

/-- Whether an operand may start with a token that is no plus and no minus. -/
def startsOperand (token : Token) : Bool :=
  match token with
  | .number _ => true
  | .text _ => true
  | .pattern _ => true
  | .name _ => true
  | .called _ => true
  | .function _ => true
  | .word w => w == "getline"
  | .sign s => s == "$" || s == "!" || s == "(" || s == "++" || s == "--"
  | _ => false

def endsStatement (token : Token) : Bool :=
  match token with
  | .newline => true
  | .stop => true
  | .sign s => s == ";" || s == "\x7d"
  | _ => false

/-- The expression of a constant that is to be fitted. -/
def patternOf (s : List Char) : Reading Expr :=
  match regexOf s with
  | .ok r => return .pattern r
  | .error e => refuse (failureText e s)

/-- Whether a function may be called with so many arguments. -/
def allows (f : Function) (count : Nat) : Bool :=
  match f with
  | .length => count ≤ 1
  | .substr => count == 2 || count == 3
  | .index => count == 2
  | .split => count == 2 || count == 3
  | .sub => count == 2 || count == 3
  | .gsub => count == 2 || count == 3
  | .fit => count == 2
  | .sprintf => 1 ≤ count
  | .atan2 => count == 2
  | .rand => count == 0
  | .srand => count ≤ 1
  | .flush => count ≤ 1
  | _ => count == 1

def noteArguments (f : Function) (arguments : List Expr) : Reading Unit :=
  match f, arguments with
  | .split, _ :: .named name :: _ => note name true
  | _, _ => pure ()

/-! ## Expressions -/

mutual

/-- Reads an expression; `noGreater` leaves greater signs alone. -/
def expression : Nat → Bool → Reading Expr
  | 0, _ => refuseToken
  | fuel + 1, noGreater => do
      let condition ← level fuel noGreater 0
      if ← takesSign "?" then
        let yes ← expression fuel noGreater
        expect ":"
        let no ← expression fuel noGreater
        return .choose condition yes no
      return condition

/-- Reads an expression of a level. -/
def level : Nat → Bool → Nat → Reading Expr
  | 0, _, _ => refuseToken
  | fuel + 1, noGreater, n => do
      if n = 8 then unary fuel noGreater
      else
        let first ← level fuel noGreater (n + 1)
        let first ← if n = 5 then stored fuel noGreater first else pure first
        further fuel noGreater n first

/-- Goes on behind an operand of a level. -/
def further : Nat → Bool → Nat → Expr → Reading Expr
  | 0, _, _, _ => refuseToken
  | fuel + 1, noGreater, n, left => do
      let token ← peek
      if n = 2 then
        if token = .word "in" then
          advance
          match ← peek with
          | .name table =>
              advance
              note table true
              further fuel noGreater n (.isKey [left] table)
          | _ => refuseToken
        else return left
      else if n = 5 then
        if startsOperand token then
          let right ← level fuel noGreater 6
          further fuel noGreater n (.join left right)
        else return left
      else
        match operatorAt? n noGreater token with
        | some f =>
            advance
            if n ≤ 1 then skipNewlines
            let right ← level fuel noGreater (n + 1)
            further fuel noGreater n (f left right)
        | none => return left

/-- Reads the value that is stored under a target, if one is. -/
def stored : Nat → Bool → Expr → Reading Expr
  | 0, _, _ => refuseToken
  | fuel + 1, noGreater, target => do
      match storing? (← peek) with
      | some f =>
          if target.isTarget then
            advance
            return f target (← expression fuel noGreater)
          return target
      | none => return target

/-- Reads an operand with its signs. -/
def unary : Nat → Bool → Reading Expr
  | 0, _ => refuseToken
  | fuel + 1, noGreater => do
      match ← peek with
      | .sign "!" =>
          advance
          return .not (← unary fuel noGreater)
      | .sign "-" =>
          advance
          return .minus (← unary fuel noGreater)
      | .sign "+" =>
          advance
          return .plus (← unary fuel noGreater)
      | _ => piped fuel (← power fuel)

/-- Goes on behind a command whose output is read. -/
def piped : Nat → Expr → Reading Expr
  | 0, _ => refuseToken
  | fuel + 1, command => do
      if (← peek) = .sign "|" && (← peekSecond) = .word "getline" then
        advance
        advance
        let target ← target? fuel
        piped fuel (.readCommand target command)
      else return command

/-- Reads a power. -/
def power : Nat → Reading Expr
  | 0 => refuseToken
  | fuel + 1 => do
      let base ← counted fuel
      if ← takesSign "^" then
        match ← peek with
        | .sign "-" =>
            advance
            return .arithmetic .pow base (.minus (← power fuel))
        | .sign "+" =>
            advance
            return .arithmetic .pow base (.plus (← power fuel))
        | .sign "!" =>
            advance
            return .arithmetic .pow base (.not (← power fuel))
        | _ => return .arithmetic .pow base (← power fuel)
      return base

/-- Reads an operand that may be counted up or down behind. -/
def counted : Nat → Reading Expr
  | 0 => refuseToken
  | fuel + 1 => do
      let operand ← primary fuel
      if operand.isTarget then
        if ← takesSign "++" then return .count true false operand
        if ← takesSign "--" then return .count false false operand
      return operand

/-- Reads the number of a field. -/
def fieldNumber : Nat → Reading Expr
  | 0 => refuseToken
  | fuel + 1 => do
      match ← peek with
      | .sign "-" =>
          advance
          return .minus (← fieldNumber fuel)
      | .sign "+" =>
          advance
          return .plus (← fieldNumber fuel)
      | .sign "!" =>
          advance
          return .not (← fieldNumber fuel)
      | _ => primary fuel

/-- Reads what a value can be stored under, if it is there. -/
def target? : Nat → Reading (Option Expr)
  | 0 => refuseToken
  | fuel + 1 => do
      match ← peek with
      | .name _ => return some (← primary fuel)
      | .sign "$" => return some (← primary fuel)
      | _ => return none

/-- Reads an operand without operators. -/
def primary : Nat → Reading Expr
  | 0 => refuseToken
  | fuel + 1 => do
      match ← peek with
      | .number x =>
          advance
          return .number x
      | .text s =>
          advance
          return .text s
      | .pattern s =>
          let r ← patternOf s
          advance
          return r
      | .sign "$" =>
          advance
          return .field (← fieldNumber fuel)
      | .sign "++" =>
          advance
          let operand ← primary fuel
          if operand.isTarget then return .count true true operand
          refuseToken
      | .sign "--" =>
          advance
          let operand ← primary fuel
          if operand.isTarget then return .count false true operand
          refuseToken
      | .sign "(" =>
          advance
          match ← expressions fuel false with
          | [inner] =>
              expect ")"
              return .grouped inner
          | key =>
              expect ")"
              if (← peek) = .word "in" then
                advance
                match ← peek with
                | .name table =>
                    advance
                    note table true
                    return .isKey key table
                | _ => refuseToken
              else refuseToken
      | .word "getline" =>
          advance
          let target ← target? fuel
          if ← takesSign "<" then
            return .readFile target (← counted fuel)
          return .readRecord target
      | .function f =>
          let start ← get
          advance
          if ← takesSign "(" then
            let given ← if f = .length && (← peek) != .sign ")" then do
                let text ← expression fuel false
                expect ")"
                pure [text]
              else arguments fuel
            unless allows f given.length do
              set { start with depth := 0 }
              refuse ("wrong number of arguments in call to ".toList ++
                ((start.tokens.head?.map (·.written)).getD []))
            noteArguments f given
            return .apply f given
          if f = .length then return .apply .length []
          refuseToken
      | .called name =>
          advance
          if ← isKnown name then return .named name
          expect "("
          let given ← arguments fuel
          modify fun p => { p with calls := (name, given.length) :: p.calls }
          return .call name given
      | .name name =>
          advance
          let p ← get
          let isFunction := match p.place with
            | .definition own => own == name
            | _ => false
          if isFunction || (p.definitions.lookup name).isSome then
            expect "("
            let given ← arguments fuel
            modify fun p => { p with calls := (name, given.length) :: p.calls }
            return .call name given
          if ← takesSign "[" then
            note name true
            let key ← expressions fuel false
            expect "]"
            return .element name key
          let after ← peek
          -- alone between commas or parentheses, a name may be that of a table
          unless after = .sign "," || after = .sign ")" do note name false
          return .named name
      | _ => refuseToken

/-- Reads some expressions with commas between them. -/
def expressions : Nat → Bool → Reading (List Expr)
  | 0, _ => refuseToken
  | fuel + 1, noGreater => do
      let first ← expression fuel noGreater
      if ← takesSign "," then
        skipNewlines
        return first :: (← expressions fuel noGreater)
      return [first]

/-- Reads the arguments of a call behind the opening parenthesis. -/
def arguments : Nat → Reading (List Expr)
  | 0 => refuseToken
  | fuel + 1 => do
      if ← takesSign ")" then return []
      let given ← expressions fuel false
      expect ")"
      return given

end

/-! ## Statements -/

/-- Reads what is printed, in parentheses that hold all of it or without. -/
def printed (fuel : Nat) : Reading (List Expr) := do
  let token ← peek
  if endsStatement token || token = .sign ">" || token = .sign ">>" || token = .sign "|" then return []
  let start ← get
  let whole : Reading (Option (List Expr)) := do
    unless ← takesSign "(" do return none
    let values ← arguments fuel
    let token ← peek
    if endsStatement token || token = .sign ">" || token = .sign ">>" || token = .sign "|" then
      return some values
    return none
  match whole.run start with
  | .ok (some values, after) =>
      set after
      return values
  | _ => expressions fuel true

/-- Reads where something is printed. -/
def printTarget (fuel : Nat) : Reading (Option Target) := do
  if ← takesSign ">" then return some (.file (← expression fuel true))
  if ← takesSign ">>" then return some (.fileEnd (← expression fuel true))
  if ← takesSign "|" then return some (.command (← expression fuel true))
  return none

/-- Reads a statement without its end, which is no loop and no choice. -/
def simple (fuel : Nat) : Reading Statement := do
  match ← peek with
  | .word "print" =>
      advance
      let values ← printed fuel
      return .print values (← printTarget fuel)
  | .word "printf" =>
      advance
      let values ← printed fuel
      if values.isEmpty then refuse "no arguments in call to printf".toList
      return .printf values (← printTarget fuel)
  | .word "delete" =>
      advance
      match ← peek with
      | .name table =>
          advance
          note table true
          if ← takesSign "[" then
            let key ← expressions fuel false
            expect "]"
            return .delete table (some key)
          return .delete table none
      | _ => refuseToken
  | _ => return .evaluate (← expression fuel false)

/-- Goes past the end of a statement; a closing brace stays. -/
def statementEnd : Reading Unit := do
  match ← peek with
  | .newline => skipNewlines
  | .sign ";" =>
      advance
      skipNewlines
  | .sign "\x7d" => pure ()
  | .stop => pure ()
  | _ => refuseToken

def optionalValue (fuel : Nat) : Reading (Option Expr) := do
  if endsStatement (← peek) then return none
  return some (← expression fuel false)

/-- The name and the table that a loop over keys has behind its parenthesis. -/
def eachOf? : List Token → Option (String × String)
  | .name name :: .word "in" :: .name table :: .sign ")" :: _ => some (name, table)
  | _ => none

mutual

/-- Reads a statement with its end. -/
def statement : Nat → Reading Statement
  | 0 => refuseToken
  | fuel + 1 => do
      let goOn := fun (s : Statement) => do
        statementEnd
        return s
      match ← peek with
      | .sign "\x7b" =>
          return .block (← block fuel)
      | .sign ";" =>
          advance
          return .block []
      | .word "if" =>
          advance
          expect "("
          let condition ← expression fuel false
          expect ")"
          skipNewlines
          let yes ← statement fuel
          -- the newlines belong to what follows unless that is an else
          let start ← get
          skipNewlines
          if (← peek) = .word "else" then
            advance
            skipNewlines
            return .branch condition [yes] [← statement fuel]
          set start
          return .branch condition [yes] []
      | .word "while" =>
          advance
          expect "("
          let condition ← expression fuel false
          expect ")"
          if (← peek) = .sign ";" then
            advance
            return .loop condition []
          skipNewlines
          return .loop condition [← inLoop fuel]
      | .word "do" =>
          advance
          skipNewlines
          let body ← inLoop fuel
          skipEnds
          unless (← peek) = .word "while" do refuseToken
          advance
          expect "("
          let condition ← expression fuel false
          expect ")"
          goOn (.loopAfter [body] condition)
      | .word "for" =>
          advance
          expect "("
          -- a loop over keys looks like any other up to its parenthesis
          match eachOf? ((← get).tokens.map (·.token)) with
          | some (name, table) =>
              modify fun p => { p with tokens := p.tokens.drop 3 }
              advance
              note name false
              note table true
              skipNewlines
              return .each name table [← inLoop fuel]
          | none =>
              let start ← if (← peek) = .sign ";" then pure [] else pure [← simple fuel]
              expect ";"
              skipNewlines
              let condition ← if (← peek) = .sign ";" then pure none
                else pure (some (← expression fuel false))
              expect ";"
              skipNewlines
              let step ← if (← peek) = .sign ")" then pure [] else pure [← simple fuel]
              expect ")"
              if (← peek) = .sign ";" then
                advance
                return .loopFor start condition step []
              skipNewlines
              return .loopFor start condition step [← inLoop fuel]
      | .word "next" =>
          if (← get).place != .rule then refuse "improper use of next".toList
          advance
          goOn .next
      | .word "nextfile" =>
          if (← get).place != .rule then refuse "improper use of nextfile".toList
          advance
          goOn .nextFile
      | .word "exit" =>
          advance
          goOn (.exit (← optionalValue fuel))
      | .word "return" =>
          match (← get).place with
          | .definition _ =>
              advance
              goOn (.giveBack (← optionalValue fuel))
          | _ => refuse "return outside function body".toList
      | .word "break" =>
          if (← get).loops = 0 then refuse "break statement outside of loop".toList
          advance
          goOn .leave
      | .word "continue" =>
          if (← get).loops = 0 then refuse "continue statement outside of loop".toList
          advance
          goOn .again
      | _ => goOn (← simple fuel)

/-- Reads the statement of a loop. -/
def inLoop : Nat → Reading Statement
  | 0 => refuseToken
  | fuel + 1 => do
      modify fun p => { p with loops := p.loops + 1 }
      let s ← statement fuel
      modify fun p => { p with loops := p.loops - 1 }
      return s

/-- Reads statements in braces. -/
def block : Nat → Reading (List Statement)
  | 0 => refuseToken
  | fuel + 1 => do
      expect "\x7b"
      skipEnds
      statements fuel

/-- Reads statements up to the closing brace. -/
def statements : Nat → Reading (List Statement)
  | 0 => refuseToken
  | fuel + 1 => do
      match ← peek with
      | .sign "\x7d" =>
          advance
          return []
      | .stop => refuse "missing \x7d near end of file".toList
      | _ =>
          let s ← statement fuel
          skipEnds
          return s :: (← statements fuel)

end

/-! ## Rules -/

/-- Reads the names of parameters behind the opening parenthesis. -/
def parameters : Nat → Reading (List String)
  | 0 => refuseToken
  | fuel + 1 => do
      match ← peek with
      | .name name =>
          if (← get).place = .definition name then
            refuse "function parameter cannot be the function".toList
          advance
          if ← takesSign "," then
            skipNewlines
            let others ← parameters fuel
            if others.contains name then
              refuse ((name ++ " is duplicated in argument list").toList)
            return name :: others
          expect ")"
          return [name]
      | .sign ")" =>
          advance
          return []
      | _ => refuseToken

/-- Reads a function behind its name. -/
def definition (fuel : Nat) (name : String) : Reading Unit := do
  if ((← get).definitions.lookup name).isSome then refuse (("redefinition of " ++ name).toList)
  advance
  modify fun p => { p with place := .definition name }
  expect "("
  let names ← parameters fuel
  skipNewlines
  modify fun p => { p with locals := names.map fun n => (n, none) }
  let body ← block fuel
  modify fun p =>
    { p with
      definitions := (name, ⟨names, body⟩) :: p.definitions, locals := [], place := .rule }

def addRule (condition : Condition) (body : Option (List Statement)) : Reading Unit :=
  modify fun p => { p with rules := ⟨p.rules.length, condition, body⟩ :: p.rules }

/-- Reads the body of a rule, if there is one. -/
def optionalBody (fuel : Nat) : Reading (Option (List Statement)) := do
  if (← peek) = .sign "\x7b" then return some (← block fuel)
  match ← peek with
  | .newline => return none
  | .stop => return none
  | .sign ";" => return none
  | _ => refuseToken

/-- Reads a rule or a function. -/
def item (fuel : Nat) : Reading Unit := do
  match ← peek with
  | .word "BEGIN" =>
      advance
      modify fun p => { p with place := .edge }
      let body ← block fuel
      modify fun p => { p with place := .rule }
      addRule .atStart (some body)
  | .word "END" =>
      advance
      modify fun p => { p with place := .edge }
      let body ← block fuel
      modify fun p => { p with place := .rule }
      addRule .atEnd (some body)
  | .word "function" =>
      advance
      match ← peek with
      | .name name => definition fuel name
      | .called name => definition fuel name
      | _ => refuseToken
  | .sign "\x7b" => addRule .always (some (← block fuel))
  | _ =>
      let first ← expression fuel false
      if ← takesSign "," then
        skipNewlines
        let last ← expression fuel false
        addRule (.between first last) (← optionalBody fuel)
      else addRule (.holds first) (← optionalBody fuel)

/-- Reads the rules and functions of a script. -/
def items : Nat → Reading Unit
  | 0 => refuseToken
  | fuel + 1 => do
      skipEnds
      match ← peek with
      | .stop => pure ()
      | .sign "\x7d" =>
          let line := ((← get).tokens.head?.map (·.line)).getD 1
          refuse (("extra '\x7d'\nawk: line " ++ toString line ++
            ": syntax error at or near end of line").toList)
      | _ =>
          item fuel
          items fuel

end Reading

/-- The script that a text is. -/
def Script.ofText (s : List Char) : Except Fault Script := do
  let tokens ← tokensOf s
  let fuel := 20 * (tokens.length + 2)
  let lastLine := s.count '\n' + 2
  let tokens := tokens.map fun l => if l.token == .stop then { l with line := lastLine } else l
  let (_, p) ← (Reading.items fuel).run
    ⟨tokens, [("ENVIRON", true), ("ARGV", true)], [], .rule, 0, 0, [], [], []⟩
  for (name, count) in p.calls.reverse do
    match p.definitions.lookup name with
    | none =>
        throw ⟨lastLine, ("function " ++ name ++ " never defined").toList, false⟩
    | some d =>
        if d.parameters.length < count then
          throw ⟨lastLine - 1, ("too many arguments in call to " ++ name).toList, false⟩
  return ⟨p.rules.reverse, p.definitions⟩

end CodeBlock.Shell.Records
