import CodeBlock.Shell.Source

set_option autoImplicit false

/-! # Reading commands

Commands are read line by line: a line is run before the next one is read. What a token is depends on
where it stands: a word of the language is one only where a command may start, an alias only there, too,
and between quotes or in braces most characters stand for themselves. -/

namespace CodeBlock.Shell

/-! ## Words -/

/-- Where characters are read. -/
inductive Place where
  /-- Outside of quotes, in braces or not. -/
  | bare (inBraces : Bool)
  /-- Between double quotes, which stand in braces or not. -/
  | double (inBraces : Bool)
  /-- In braces that stand between double quotes, or in a text that stands in the command; other quotes
      may have been opened there. -/
  | doubleBraces (inHere toggled : Bool)
  /-- In a text that stands in the command. -/
  | here
  /-- In a calculation, within so many brackets. -/
  | calculation (depth : Nat)
  deriving DecidableEq, Repr

namespace Place

def isQuoted : Place → Bool
  | bare _ => false
  | _ => true

/-- A character that has no meaning in a place. -/
def own (place : Place) (c : Char) : Segment := if place.isQuoted then .quoted c else .plain c

/-- The place of a word in the braces of a parameter, which is a pattern or not. -/
def inParameter (place : Place) (isPattern : Bool) : Place :=
  match place with
  | bare _ => bare true
  | here => if isPattern then bare true else doubleBraces true false
  | doubleBraces inHere _ => if isPattern then bare true else doubleBraces inHere false
  | _ => if isPattern then bare true else doubleBraces false false

/-- Whether a backslash stays where it stands before a character. -/
def keepsBackslash (place : Place) (c : Char) : Bool :=
  let plain := c != '\\' && c != '\x60' && c != '$'
  match place with
  | bare _ => false
  | double inBraces => plain && c != '"' && (c != '}' || !inBraces)
  | doubleBraces _ _ => plain && c != '"' && c != '}'
  | here => plain
  | calculation _ => plain && c != '"'

/-- What comes of a place that is not closed when the text ends. -/
def atEnd : Place → Reading Word
  | bare false => return []
  | here => return []
  | bare true => .fail .missingBrace
  | double _ => .fail .unterminatedQuote
  | doubleBraces inHere _ => .fail (if inHere then .missingBrace else .unterminatedQuote)
  | calculation _ => .fail .missingParentheses

end Place

/-- What is done with a parameter, as its braces say before a word comes. -/
inductive ParameterForm where
  | whole
  | measured
  | replaced (replacement : Replacement) (blank : Bool)
  | trimmed (atStart longest : Bool)
  | senseless
  deriving DecidableEq, Repr

def Replacement.ofSign? : Char → Option Replacement
  | '-' => some .otherwise
  | '=' => some .assigning
  | '?' => some .refusing
  | '+' => some .instead
  | _ => none

def ParameterForm.adjustment (word : Word) : ParameterForm → Adjustment
  | whole => .plain
  | measured => .length
  | replaced replacement blank => .replaced replacement blank word
  | trimmed atStart longest => .without atStart longest word
  | senseless => .senseless

namespace Reading

/-- Reads the sign that says what is done with a parameter. -/
def takeForm : Reading ParameterForm := do
  match ← peek? with
  | none => return .senseless
  | some c =>
      drop
      if c = '}' then return .whole
      else if c = '%' ∨ c = '#' then
        return .trimmed (c == '#') (← take? c)
      else if c = ':' then
        match ← peek? with
        | none => return .senseless
        | some d =>
            drop
            match Replacement.ofSign? d with
            | some replacement => return .replaced replacement true
            | none => return .senseless
      else
        match Replacement.ofSign? c with
        | some replacement => return .replaced replacement false
        | none => return .senseless

/-- Reads the name of a parameter that stands in braces, if one follows; `fuel` bounds its length. -/
def takeName (fuel : Nat) : Reading (List Char) := do
  match ← peek? with
  | some c =>
      if isNameStart c then takeWhile isNameChar fuel
      else if c.isDigit then takeWhile Char.isDigit fuel
      else return []
  | none => return []

/-- Reads what stands in the braces of a parameter before a word; `fuel` bounds its length. -/
def takeParameter (fuel : Nat) : Reading (List Char × ParameterForm) := do
  match ← takeName fuel with
  | name@(_ :: _) => return (name, ← takeForm)
  | [] =>
      match ← peek? with
      | some '#' =>
          drop
          match ← takeName fuel with
          | name@(_ :: _) => return (name, if (← peek?) = some '}' then .measured else .senseless)
          | [] =>
              match ← peek? with
              | some '}' => return (['#'], ← takeForm)
              | some c =>
                  let s ← get
                  drop
                  if (← peek?) = some '}' then
                    return ([c], if isSpecialName c then .measured else .senseless)
                  else
                    set s
                    return (['#'], ← takeForm)
              | none => return ([], .senseless)
      | some '}' => return ([], .senseless)
      | some c =>
          drop
          if isSpecialName c then return ([c], ← takeForm) else return ([], .senseless)
      | none => return ([], .senseless)

/-- The text up to the closing backquote, without the backslashes that keep a character from its meaning;
    `double` says that it stands between double quotes. -/
def takeBackquoted (double : Bool) : Nat → Reading (List Char)
  | 0 => fail .unterminatedBackquote
  | fuel + 1 => do
      match ← peek? with
      | none => fail .unterminatedBackquote
      | some '\x60' =>
          drop
          return []
      | some '\\' =>
          drop
          match ← head? with
          | none => fail .unterminatedBackquote
          | some c =>
              drop
              let rest ← takeBackquoted double fuel
              if c = '\\' ∨ c = '\x60' ∨ c = '$' ∨ (c = '"' ∧ double = true) then return c :: rest
              else return '\\' :: c :: rest
      | some c =>
          drop
          return c :: (← takeBackquoted double fuel)

/-- The text up to the closing single quote. -/
def takeSingle : Reading (List Char) := fun s =>
  match untilQuote '\'' s.rest with
  | some (text, rest) => .ok (text, { s with rest := rest, line := s.line + text.count '\n' })
  | none => .error ⟨.unterminatedQuote, s.line + s.rest.count '\n'⟩

/-- The sign of a redirection. -/
def takeSign : Reading String := do
  if ← take? '>' then
    if ← take? '>' then return ">>"
    else if ← take? '|' then return ">|"
    else if ← take? '&' then return ">&"
    else return ">"
  else
    drop
    if ← take? '<' then
      if ← take? '-' then return "<<-" else return "<<"
    else if ← take? '&' then return "<&"
    else if ← take? '>' then return "<>"
    else return "<"

end Reading

/-! ## Tokens -/

/-- What is looked for where a token comes next. -/
structure Outlook where
  /-- Whether line ends are skipped. -/
  newlines : Bool
  /-- Whether a word may be one of the language. -/
  keywords : Bool
  aliases : Bool
  /-- Whether the word marks the end of a text that stands in the command. -/
  marks : Bool

namespace Outlook

/-- Just the next token. -/
def next : Outlook := ⟨false, false, false, false⟩

/-- A command in the same line. -/
def command : Outlook := ⟨false, true, true, false⟩

def laterCommand : Outlook := ⟨true, true, true, false⟩

/-- A word of the language or a pattern. -/
def branch : Outlook := ⟨true, true, false, false⟩

end Outlook

/-- The words that belong to the language where a command may start. -/
def reserved : List String :=
  ["if", "then", "else", "elif", "fi", "do", "done", "case", "esac", "while", "until", "for", "in", "!",
    "\x7b", "\x7d"]

/-- The commands of the shell that cannot be given a new meaning. -/
def specialCommands : List String :=
  [":", ".", "break", "continue", "eval", "exec", "exit", "export", "local", "readonly", "return", "set",
    "shift", "times", "trap", "unset"]

namespace Token

/-- The name that messages have for a token. -/
def name : Token → String
  | ending => "end of file"
  | newline => "newline"
  | operator sign => "\"" ++ sign ++ "\""
  | redirection _ _ => "redirection"
  | keyword text => "\"" ++ text ++ "\""
  | word _ => "word"

/-- Whether a list of commands ends before a token. -/
def endsList : Token → Bool
  | ending => true
  | operator sign => sign == ")" || sign == ";;"
  | keyword text => ["then", "else", "elif", "fi", "do", "done", "esac", "\x7d"].contains text
  | _ => false

def isOperator (sign : String) : Token → Bool
  | operator other => other == sign
  | _ => false

/-- Whether a token is a certain word of the language. -/
def isKeyword (text : String) : Token → Bool
  | keyword other => other == text
  | _ => false

/-- The word that a token was read as. -/
def written : Token → Word
  | word w => w
  | keyword text => text.toList.map .plain
  | _ => []

end Token

namespace Reading

/-- Fails at a token. -/
def unexpected {α : Type} (token : Token) (wanted : Option String) : Reading α :=
  fail (.unexpected token.name wanted)

/-- Leaves a token to be read again. -/
def putBack (token : Token) : Reading Unit := modify fun s => { s with pending := some token }

end Reading

/-! ## Commands -/

/-- How far a list of commands goes. -/
inductive ListExtent where
  /-- To the end of the line. -/
  | line
  /-- Over lines; there must be a command. -/
  | filled
  /-- Over lines, and there may be none. -/
  | free
  deriving DecidableEq, Repr

def Command.after (before : Option Command) (command : Command) : Command :=
  match before with
  | some before => .inOrder before command
  | none => command

def Command.withRedirections (line : Nat) (redirections : List Redirection) : Command → Command
  | .apart inner body _ => .apart inner body redirections
  | body => if redirections.isEmpty then body else .redirected line body redirections

open Reading in
mutual

/-- Reads the segments of a word in a place, and what closes the place. In the `mark` of a text that
    stands in the command nothing is worked out. -/
def readParts (mark : Bool) (place : Place) : Nat → Reading Word
  | 0 => place.atEnd
  | fuel + 1 => do
      match ← peek? with
      | none => place.atEnd
      | some c =>
          if place = .bare false ∧ endsWord c = true then return []
          else
            drop
            if c = '\\' then
              match ← head? with
              | none => return .quoted '\\' :: (← readParts mark place fuel)
              | some d =>
                  drop
                  let rest ← readParts mark place fuel
                  if place.keepsBackslash d then return .quoted '\\' :: .quoted d :: rest
                  else return .quoted d :: rest
            else if c = '$' ∧ mark = false then
              let part ← readDollar place fuel
              return part :: (← readParts mark place fuel)
            else if c = '\x60' ∧ mark = false then
              let text ← takeBackquoted place.isQuoted fuel
              let body ← readBackquoted text fuel
              return .output body place.isQuoted :: (← readParts mark place fuel)
            else
              match place with
              | .bare inBraces =>
                  if c = '\'' then
                    let text ← takeSingle
                    return .quotes :: (text.map .quoted ++ (← readParts mark place fuel))
                  else if c = '"' then
                    let inner ← readParts mark (.double inBraces) fuel
                    let rest ← readParts mark place fuel
                    return if isArguments inner then inner ++ rest else .quotes :: (inner ++ rest)
                  else if c = '}' ∧ inBraces = true then return []
                  else return .plain c :: (← readParts mark place fuel)
              | .double _ =>
                  if c = '"' then return [] else return .quoted c :: (← readParts mark place fuel)
              | .doubleBraces inHere toggled =>
                  if c = '"' then readParts mark (.doubleBraces inHere (!toggled)) fuel
                  else if c = '}' ∧ toggled = false then return []
                  else return .quoted c :: (← readParts mark place fuel)
              | .here => return .quoted c :: (← readParts mark place fuel)
              | .calculation depth =>
                  if c = '(' then
                    return .quoted c :: (← readParts mark (.calculation (depth + 1)) fuel)
                  else if c = ')' ∧ depth = 0 then
                    if ← take? ')' then return []
                    else return .quoted c :: (← readParts mark place fuel)
                  else if c = ')' then
                    return .quoted c :: (← readParts mark (.calculation (depth - 1)) fuel)
                  else return .quoted c :: (← readParts mark place fuel)

/-- Reads what follows a dollar sign. -/
def readDollar (place : Place) : Nat → Reading Segment
  | 0 => return place.own '$'
  | fuel + 1 => do
      match ← peek? with
      | some '(' =>
          drop
          if ← take? '(' then
            return .number (← readParts false (.calculation 0) fuel) place.isQuoted
          else
            let body ← readList .free none fuel
            let token ← readToken .next fuel
            if token.isOperator ")" then return .output (body.getD .nothing) place.isQuoted
            else unexpected token (some "\")\"")
      | some '{' =>
          drop
          let (name, form) ← takeParameter fuel
          if form = .whole then return .parameter name .plain place.isQuoted
          else
            let isPattern := match form with
              | .trimmed _ _ => true
              | _ => false
            let word ← readParts false (place.inParameter isPattern) fuel
            return .parameter name (form.adjustment (withHome (· == '/') word)) place.isQuoted
      | some c =>
          if isNameStart c then
            return .parameter (← takeWhile isNameChar fuel) .plain place.isQuoted
          else if isSpecialName c then
            drop
            return .parameter [c] .plain place.isQuoted
          else return place.own '$'
      | none => return place.own '$'

/-- Reads the text that stood between backquotes. -/
def readBackquoted (text : List Char) : Nat → Reading Command
  | 0 => return .nothing
  | fuel + 1 => fun s =>
      match readList .free none fuel (.ofText s.aliases text) with
      | .ok (body, _) => .ok (body.getD .nothing, s)
      | .error failure => .error failure

/-- Reads the next token as it is written, and says whether it may be an alias because of the one
    before it. -/
def readWritten (mark : Bool) : Nat → Reading (Token × Bool)
  | 0 => return (.ending, false)
  | fuel + 1 => do
      let s ← get
      match s.pending with
      | some token =>
          set { s with pending := none }
          return (token, false)
      | none =>
          skipSpace fuel
          let widened ← closeAliases
          match ← peek? with
          | none => return (.ending, widened)
          | some c =>
              if c = '\n' then
                drop
                modify fun s => { s with line := s.line + s.taken, taken := 0 }
                return (.newline, widened)
              else if c = '(' ∨ c = ')' then
                drop
                return (.operator (String.singleton c), widened)
              else if c = '&' ∨ c = '|' ∨ c = ';' then
                drop
                let sign := if ← take? c then String.ofList [c, c] else String.singleton c
                return (.operator sign, widened)
              else
                let word ← readParts mark (.bare false) fuel
                let descriptor? := match ← peek? with
                  | some c =>
                      if c = '<' ∨ c = '>' then
                        match word with
                        | [] => some (if c = '<' then 0 else 1)
                        | [.plain d] => if d.isDigit then some (d.toNat - '0'.toNat) else none
                        | _ => none
                      else none
                  | none => none
                match descriptor? with
                | some descriptor => return (.redirection descriptor (← takeSign), widened)
                | none => return (.word word, widened)

/-- Reads the next token. -/
def readToken (outlook : Outlook) : Nat → Reading Token
  | 0 => return .ending
  | fuel + 1 => do
      let (token, widened) ← readWritten outlook.marks fuel
      match token with
      | .newline => if outlook.newlines then readToken outlook fuel else return token
      | .word word =>
          match bareText? word with
          | none => return token
          | some text =>
              if outlook.keywords && reserved.contains (String.ofList text) then
                return .keyword (String.ofList text)
              else if outlook.aliases || widened then
                match ← aliasText? text with
                | some meaning =>
                    openAlias text meaning
                    readToken { outlook with aliases := true } fuel
                | none => return token
              else return token
      | token => return token

/-- Reads what follows the sign of a redirection. -/
def readRedirection (descriptor : Nat) (sign : String) : Nat → Reading Redirection
  | 0 => fail .badDescriptor
  | fuel + 1 => do
      let isHere := sign == "<<" || sign == "<<-"
      match ← readToken { Outlook.next with marks := isHere } fuel with
      | .word word =>
          match sign with
          | "<" => return (descriptor, .file word .read)
          | "<>" => return (descriptor, .file word .readWrite)
          | ">" => return (descriptor, .file word .write)
          | ">|" => return (descriptor, .file word .overwrite)
          | ">>" => return (descriptor, .file word .append)
          | "<&" => return (descriptor, .copy word)
          | ">&" => return (descriptor, .copy word)
          | _ =>
              let works := (bareText? word).isSome
              let text ← takeHere (ownText word) (sign == "<<-") works
              if works then
                let s ← get
                match readParts false .here fuel { Source.ofText s.aliases text with line := s.line + 1 } with
                | .ok (parts, _) => return (descriptor, .here parts)
                | .error failure => throw failure
              else return (descriptor, .here (text.map .quoted))
      | token => unexpected token none

/-- Reads the redirections that follow a command. -/
def readRedirections (outlook : Outlook) : Nat → Reading (List Redirection)
  | 0 => return []
  | fuel + 1 => do
      match ← readToken outlook fuel with
      | .redirection descriptor sign =>
          let redirection ← readRedirection descriptor sign fuel
          return redirection :: (← readRedirections .next fuel)
      | token =>
          putBack token
          return []

/-- Reads a list of commands, of which some have been read before. -/
def readList (extent : ListExtent) (before : Option Command) : Nat → Reading (Option Command)
  | 0 => unexpected .ending none
  | fuel + 1 => do
      let token ← readToken (if extent = .line then .command else .laterCommand) fuel
      match token with
      | .newline => return before
      | .ending =>
          putBack token
          return before
      | token =>
          putBack token
          if extent = .free ∧ token.endsList = true then return before
          else
            let extent := if extent = .filled then .free else extent
            let command ← readConditions fuel
            match ← readToken .next fuel with
            | .operator "&" => readList extent (some (.after before (.background command))) fuel
            | .operator ";" => readList extent (some (.after before command)) fuel
            | token =>
                putBack token
                match token with
                | .newline => readList extent (some (.after before command)) fuel
                | .ending => readList extent (some (.after before command)) fuel
                | token =>
                    if extent = .line then unexpected token none
                    else return some (.after before command)

def readConditions : Nat → Reading Command
  | 0 => unexpected .ending none
  | fuel + 1 => do readMoreConditions (← readPipe .next fuel) fuel

/-- Reads what depends on a command. -/
def readMoreConditions (first : Command) : Nat → Reading Command
  | 0 => unexpected .ending none
  | fuel + 1 => do
      match ← readToken .next fuel with
      | .operator "&&" => readMoreConditions (.andThen first (← readPipe .laterCommand fuel)) fuel
      | .operator "||" => readMoreConditions (.orElse first (← readPipe .laterCommand fuel)) fuel
      | token =>
          putBack token
          return first

/-- Reads commands joined by pipes. -/
def readPipe (outlook : Outlook) : Nat → Reading Command
  | 0 => unexpected .ending none
  | fuel + 1 => do
      let token ← readToken outlook fuel
      if token.isKeyword "!" then
        return .negate (← readMorePipe (← readCommand .command fuel) fuel)
      else
        putBack token
        readMorePipe (← readCommand .next fuel) fuel

/-- Reads what a command is joined with. -/
def readMorePipe (first : Command) : Nat → Reading Command
  | 0 => unexpected .ending none
  | fuel + 1 => do
      let token ← readToken .next fuel
      if token.isOperator "|" then
        return .pipe first (← readMorePipe (← readCommand .laterCommand fuel) fuel)
      else
        putBack token
        return first

/-- Reads a word of the language. -/
def readKeyword (outlook : Outlook) (text : String) : Nat → Reading Unit
  | 0 => unexpected .ending none
  | fuel + 1 => do
      let token ← readToken outlook fuel
      if token.isKeyword text then return () else unexpected token (some (Token.keyword text).name)

/-- Reads one command without operators. -/
def readCommand (outlook : Outlook) : Nat → Reading Command
  | 0 => unexpected .ending none
  | fuel + 1 => do
      let line := (← get).line
      let finish := fun (command : Command) => do
        return command.withRedirections line (← readRedirections .command fuel)
      match ← readToken outlook fuel with
      | .operator "(" =>
          let body ← readList .filled none fuel
          let token ← readToken .next fuel
          if token.isOperator ")" then finish (.apart line (body.getD .nothing) [])
          else unexpected token (some "\")\"")
      | .keyword "\x7b" =>
          let body ← readList .filled none fuel
          readKeyword .next "\x7d" fuel
          finish (body.getD .nothing)
      | .keyword "if" =>
          let command ← readIf fuel
          readKeyword .next "fi" fuel
          finish command
      | .keyword "while" =>
          let (condition, body) ← readLoop fuel
          finish (.loop true condition body)
      | .keyword "until" =>
          let (condition, body) ← readLoop fuel
          finish (.loop false condition body)
      | .keyword "for" =>
          let command ← readFor line fuel
          finish command
      | .keyword "case" =>
          match ← readToken .next fuel with
          | .word word =>
              readKeyword .laterCommand "in" fuel
              let branches ← readBranches fuel
              finish (.select line word branches)
          | token => unexpected token (some "word")
      | .word word =>
          putBack (.word word)
          readSimple (← get).line true [] [] [] fuel
      | .redirection descriptor sign =>
          putBack (.redirection descriptor sign)
          readSimple (← get).line true [] [] [] fuel
      | token => unexpected token none

/-- Reads the rest of a simple command; what was read before is given last part first. -/
def readSimple (line : Nat) (isStart : Bool) (assignments : List Assignment) (words : List Word)
    (redirections : List Redirection) : Nat → Reading Command
  | 0 => unexpected .ending none
  | fuel + 1 => do
      match ← readToken { Outlook.next with aliases := isStart } fuel with
      | .word word =>
          match isStart, assignment? word with
          | true, some a => readSimple line true (a :: assignments) words redirections fuel
          | _, _ => readSimple line false assignments (word :: words) redirections fuel
      | .redirection descriptor sign =>
          let redirection ← readRedirection descriptor sign fuel
          readSimple line isStart assignments words (redirection :: redirections) fuel
      | token =>
          match token.isOperator "(", assignments, words, redirections with
          | true, [], [word], [] =>
              let token ← readToken .next fuel
              if token.isOperator ")" then
                let name := (bareText? word).getD []
                if !isName name || specialCommands.contains (String.ofList name) then
                  fail .badFunctionName
                else return .define (← get).line name (← readCommand .laterCommand fuel)
              else unexpected token (some "\")\"")
          | _, _, _, _ =>
              putBack token
              return .simple line assignments.reverse words.reverse redirections.reverse

/-- Reads a choice after the word that opens it, up to the word that closes it. -/
def readIf : Nat → Reading Command
  | 0 => unexpected .ending none
  | fuel + 1 => do
      let condition ← readList .filled none fuel
      readKeyword .next "then" fuel
      let yes ← readList .filled none fuel
      let choice := Command.choice (condition.getD .nothing) (yes.getD .nothing)
      let token ← readToken .next fuel
      if token.isKeyword "elif" then return choice (← readIf fuel)
      else if token.isKeyword "else" then return choice ((← readList .filled none fuel).getD .nothing)
      else
        putBack token
        return choice .nothing

/-- Reads the condition and the body of a loop after the word that opens it. -/
def readLoop : Nat → Reading (Command × Command)
  | 0 => unexpected .ending none
  | fuel + 1 => do
      let condition ← readList .filled none fuel
      readKeyword .next "do" fuel
      let body ← readList .filled none fuel
      readKeyword .next "done" fuel
      return (condition.getD .nothing, body.getD .nothing)

/-- Reads a loop over words after the word that opens it. -/
def readFor (line : Nat) : Nat → Reading Command
  | 0 => unexpected .ending none
  | fuel + 1 => do
      let name := match ← readToken .next fuel with
        | .word word => (bareText? word).getD []
        | _ => []
      if !isName name then fail .badLoopVariable
      else
        let token ← readToken .laterCommand fuel
        let words ← if token.isKeyword "in" then some <$> readWords fuel
          else do
            if token.isOperator ";" then pure () else putBack token
            pure none
        readKeyword .laterCommand "do" fuel
        let body ← readList .filled none fuel
        readKeyword .next "done" fuel
        return .forEach line name words (body.getD .nothing)

/-- Reads words and the semicolon or the line end that closes them. -/
def readWords : Nat → Reading (List Word)
  | 0 => return []
  | fuel + 1 => do
      match ← readToken .next fuel with
      | .word word => return word :: (← readWords fuel)
      | .newline => return []
      | .operator ";" => return []
      | token => unexpected token none

/-- Reads the branches of a selection and the word that closes them. -/
def readBranches : Nat → Reading (List (List Word × Command))
  | 0 => return []
  | fuel + 1 => do
      let token ← readToken .branch fuel
      if token.isKeyword "esac" then return []
      else
        let token ← if token.isOperator "(" then readToken .next fuel else pure token
        let patterns ← readPatterns token fuel
        let body ← readList .free none fuel
        let branch := (patterns, body.getD .nothing)
        let token ← readToken .branch fuel
        if token.isKeyword "esac" then return [branch]
        else if token.isOperator ";;" then return branch :: (← readBranches fuel)
        else unexpected token (some "\";;\"")

/-- Reads the patterns of a branch, of which the first is given, up to the bracket after them. -/
def readPatterns (first : Token) : Nat → Reading (List Word)
  | 0 => return []
  | fuel + 1 => do
      let token ← readToken .next fuel
      if token.isOperator "|" then
        let next ← readToken .next fuel
        return first.written :: (← readPatterns next fuel)
      else if token.isOperator ")" then return [first.written]
      else unexpected token (some "\")\"")

end

/-! ## Lines -/

/-- How deep the reading of a text may be nested. -/
def readingFuel (s : List Char) : Nat := 20 * s.length + 20

/-- Reads the commands of the next line that has any; nothing at the end of the text. -/
def nextLine : Nat → Source → Except ReadFailure (Option (Command × Source))
  | 0, _ => .ok none
  | fuel + 1, s =>
      match readList .line none fuel { s with pending := none } with
      | .ok (some command, s) => .ok (some (command, s))
      | .ok (none, s) => if s.rest.isEmpty then .ok none else nextLine fuel s
      | .error failure => .error failure

def readWord (s : List Char) : Except SyntaxError (Word × List Char) :=
  match readParts false (.bare false) (readingFuel s) (.ofText [] s) with
  | .ok (word, source) => .ok (word, source.rest)
  | .error failure => .error failure.cause

/-- Reads a text of which the whole is as if between double quotes. -/
def readText (s : List Char) : Except SyntaxError Word :=
  match readParts false .here (readingFuel s) (.ofText [] s) with
  | .ok (word, _) => .ok word
  | .error failure => .error failure.cause

end CodeBlock.Shell
