import CodeBlock.Number.Span
import CodeBlock.Shell.Records.Fitting
import CodeBlock.Shell.Records.Script

set_option autoImplicit false

/-! # Tokens of scripts over records

A script is cut into tokens. A slash starts an expression to be fitted unless a value stands before it. -/

namespace CodeBlock.Shell.Records

inductive Token where
  | newline
  | number (x : Binary64)
  | text (s : List Char)
  | pattern (s : List Char)
  | name (s : String)
  /-- A name with an opening parenthesis right behind it. -/
  | called (s : String)
  | function (f : Function)
  | word (s : String)
  | sign (s : String)
  | stop
  deriving DecidableEq, Repr

/-- A token with its line, and as it was written. -/
structure Lexeme where
  token : Token
  line : Nat
  written : List Char

/-- The words with a meaning of their own. -/
def keywords : List String :=
  ["BEGIN", "END", "function", "if", "else", "while", "for", "do", "break", "continue", "next",
    "nextfile", "exit", "return", "delete", "in", "getline", "print", "printf"]

/-- The functions by name. -/
def functionNames : List (String × Function) :=
  [("length", .length), ("substr", .substr), ("index", .index), ("split", .split), ("sub", .sub),
    ("gsub", .gsub), ("match", .fit), ("sprintf", .sprintf), ("sin", .sin), ("cos", .cos),
    ("atan2", .atan2), ("exp", .exp), ("log", .log), ("sqrt", .sqrt), ("int", .int),
    ("rand", .rand), ("srand", .srand), ("tolower", .toLower), ("toupper", .toUpper),
    ("system", .system), ("close", .close), ("fflush", .flush)]

/-- The signs, the longer ones first. -/
def signs : List String :=
  ["&&", "||", "++", "--", "+=", "-=", "*=", "/=", "%=", "^=", "==", "<=", ">=", "!=", ">>", "!~",
    "\x7b", "\x7d", "(", ")", "[", "]", ";", ",", "+", "-", "*", "/", "%", "^", "!", "<", ">", "|",
    "?", ":", "~", "$", "="]

/-- The text up to a quotation mark, and what follows it. -/
def spanQuoted : List Char → Option (List Char × List Char)
  | [] => none
  | '"' :: rest => some ([], rest)
  | '\\' :: c :: rest => (spanQuoted rest).map fun (s, rest) => ('\\' :: c :: s, rest)
  | c :: rest => if c = '\n' then none else (spanQuoted rest).map fun (s, rest) => (c :: s, rest)

/-- The text up to a slash that stands in no set, and what follows it. -/
def spanSlashed : Nat → Bool → List Char → Option (List Char × List Char)
  | 0, _, _ => none
  | _ + 1, _, [] => none
  | fuel + 1, inSet, c :: rest =>
      let goOn := fun (piece : List Char) (inSet : Bool) (rest : List Char) =>
        (spanSlashed fuel inSet rest).map fun (s, rest) => (piece ++ s, rest)
      match c, rest with
      | '\n', _ => none
      | '/', rest => if inSet then goOn ['/'] true rest else some ([], rest)
      | '\\', '/' :: rest => goOn ['/'] inSet rest
      | '\\', d :: rest => goOn ['\\', d] inSet rest
      | '[', '^' :: ']' :: rest => if inSet then goOn ['[', '^'] true (']' :: rest)
          else goOn ['[', '^', ']'] true rest
      | '[', ']' :: rest => if inSet then goOn ['['] true (']' :: rest) else goOn ['[', ']'] true rest
      | '[', ':' :: rest => if inSet then
            match Regex.untilMark ':' rest with
            | some (name, rest) => goOn ('[' :: ':' :: name ++ [':', ']']) true rest
            | none => goOn ['[', ':'] true rest
          else goOn ['[', ':'] true rest
      | '[', rest => goOn ['['] true rest
      | ']', rest => goOn [']'] false rest
      | c, rest => goOn [c] inSet rest

/-- Whether an operand may end with a token; then a slash behind it divides. -/
def Token.endsValue : Token → Bool
  | number _ => true
  | text _ => true
  | pattern _ => true
  | name _ => true
  | function _ => true
  | sign s => s == ")" || s == "]" || s == "$" || s == "++" || s == "--"
  | _ => false

/-- Cuts a script into tokens; `before` is the token before. -/
def lexemes : Nat → Nat → Token → List Char → Except Fault (List Lexeme)
  | 0, line, _, _ => .ok [⟨.stop, line, []⟩]
  | _ + 1, line, _, [] => .ok [⟨.stop, line, []⟩]
  | fuel + 1, line, before, c :: rest =>
      let put := fun (token : Token) (written rest : List Char) =>
        (lexemes fuel line token rest).map (⟨token, line, written⟩ :: ·)
      if c = ' ' || c = '\t' || c = '\r' then lexemes fuel line before rest
      else if c = '\n' then
        (lexemes fuel (line + 1) .newline rest).map (⟨.newline, line, []⟩ :: ·)
      else if c = '\\' && rest.head? = some '\n' then lexemes fuel (line + 1) before (rest.drop 1)
      else if c = '#' then lexemes fuel line before (rest.dropWhile (· != '\n'))
      else if c = '"' then
        match spanQuoted rest with
        | some (s, rest) => put (.text (unescapeText (s.length + 1) s)) ('"' :: s ++ ['"']) rest
        | none =>
            let shown := ((c :: rest).takeWhile (· != '\n')).take 10
            .error ⟨line, "runaway string constant ".toList ++ shown ++ " ...".toList, false⟩
      else if c.isDigit || (c = '.' && rest.head?.any Char.isDigit) then
        match spanBinary64 false (c :: rest) with
        | some (x, after) =>
            put (.number x) ((c :: rest).take ((c :: rest).length - after.length)) after
        | none => lexemes fuel line before rest
      else if c.isAlpha || c = '_' then
        let name := (c :: rest).takeWhile Regex.isWordChar
        let after := (c :: rest).drop name.length
        let text := String.ofList name
        if keywords.contains text then put (.word text) name after
        else
          match functionNames.lookup text with
          | some f => put (.function f) name after
          | none =>
              if after.head? = some '(' then put (.called text) name after
              else put (.name text) name after
      else if c = '/' && !before.endsValue then
        match spanSlashed (rest.length + 1) false rest with
        | some (s, after) => put (.pattern s) ('/' :: s ++ ['/']) after
        | none =>
            let shown := ((c :: rest).takeWhile (· != '\n')).take 10
            .error ⟨line, "runaway regular expression ".toList ++ shown ++ " ...".toList, false⟩
      else
        match signs.find? fun s => s.toList.isPrefixOf (c :: rest) with
        | some s => put (.sign s) s.toList ((c :: rest).drop s.length)
        | none =>
            .error ⟨line, "unexpected character ".toList ++ quotedChar c, true⟩
where
  quotedChar (c : Char) : List Char := ['\'', c, '\'']

def tokensOf (s : List Char) : Except Fault (List Lexeme) :=
  lexemes (s.length + 1) 1 .newline s

end CodeBlock.Shell.Records
