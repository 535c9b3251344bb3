import CodeBlock.Binding
import CodeBlock.Fault
import CodeBlock.Table
import CodeBlock.Text.Split
import CodeBlock.Text.Utf8

set_option autoImplicit false

/-! # Settings

Settings are texts under keys. They come in three layers, each over the one before: built-in
defaults, the lines of a file, and variables of the environment. What a setting means is decided when
it is used; a blank one is as good as none. -/

namespace CodeBlock

/-- Texts under keys, each key once. -/
structure Settings where
  entries : List (String × String)
  deriving Repr

namespace Settings

/-- The key of the interpreter's program. -/
def binaryKey : String := "BLOCKRUN_BINARY"

/-- The key of the interpreter's whole command. -/
def commandKey : String := "BLOCKRUN_COMMAND"

/-- The key of the word that introduces declarations. -/
def keywordKey : String := "BLOCKRUN_VARIABLE_PREFIX"

/-- The key of the longest time that a run may take, in seconds. -/
def timeoutKey : String := "BLOCKRUN_TIMEOUT"

/-- What the keys of environment variables that are settings start with. -/
def keyStart : String := "BLOCKRUN_"

/-- The text under a key. -/
def get? (settings : Settings) (key : String) : Option String := Table.get? key settings.entries

/-- The settings with a text under a key. -/
def set (settings : Settings) (key value : String) : Settings :=
  ⟨Table.put key value settings.entries⟩

/-! ## Layers -/

def default : Settings := ⟨[(binaryKey, "deno"), (keywordKey, "let"), (timeoutKey, "0")]⟩

instance : Inhabited Settings := ⟨default⟩

/-- The key and the text that a line assigns, if it assigns any: blank lines and lines that start
    with `#` assign nothing. -/
def assignment? (line : List Char) : Option (String × String) :=
  match Text.trim line with
  | '#' :: _ => none
  | line =>
      (Text.splitOnce '=' line).map fun (key, value) =>
        (String.ofList (Text.trim key), String.ofList (Text.trim value))

/-- The lines of a file, as bytes without the line ends. -/
def linesOf : List UInt8 → List (List UInt8)
  | [] => []
  | b :: rest =>
      if b = 10 then [] :: linesOf rest
      else
        match linesOf rest with
        | [] => [[b]]
        | line :: lines => (b :: line) :: lines

/-- The lines that are text, up to the first one that is not. -/
def readableLines : List (List UInt8) → List (List Char)
  | [] => []
  | line :: lines =>
      match Text.ofBytes? line with
      | some s => s :: readableLines lines
      | none => []

/-- The settings with what the lines of a file assign, later lines over earlier ones. -/
def withFile (settings : Settings) (bytes : List UInt8) : Settings :=
  ((readableLines (linesOf bytes)).filterMap assignment?).foldl
    (fun settings (key, value) => settings.set key value) settings

/-- The settings with those variables of the environment that are settings. -/
def withVariables (settings : Settings) (vars : List (String × String)) : Settings :=
  (vars.filter fun (key, _) => keyStart.toList.isPrefixOf key.toList).foldl
    (fun settings (key, value) => settings.set key value) settings

/-- The defaults with what a file assigns, if there is one. -/
def ofFile (file : Option (List UInt8)) : Settings :=
  match file with
  | some bytes => default.withFile bytes
  | none => default

/-- All three layers. -/
def load (file : Option (List UInt8)) (vars : List (String × String)) : Settings :=
  (ofFile file).withVariables vars

/-! ## Meaning -/

/-- The natural number that a text between blanks denotes, if 64 bits hold it; a plus sign may stand
    before it. -/
def naturalOf? (s : String) : Option Nat :=
  let digits := match Text.trim s.toList with
    | '+' :: digits => digits
    | digits => digits
  if digits.isEmpty || !digits.all Char.isDigit then none
  else
    let n := Nat.ofDigitChars 10 digits 0
    if n < 2 ^ 64 then some n else none

def getNatural? (settings : Settings) (key : String) : Option Nat :=
  (settings.get? key).bind naturalOf?

/-- Whether a text is more than blanks. -/
def isPresent (s : String) : Bool := !(Text.trim s.toList).isEmpty

/-- The text under a key unless it is blank. -/
def getPresent? (settings : Settings) (key : String) : Option String :=
  (settings.get? key).filter isPresent

/-- The interpreter's program. -/
def binary (settings : Settings) : String := (settings.getPresent? binaryKey).getD "deno"

/-- The command that starts the interpreter. -/
def command (settings : Settings) : String :=
  (settings.getPresent? commandKey).getD (settings.binary ++ " run")

/-- The word that introduces declarations. -/
def keyword (settings : Settings) : Except Fault Keyword :=
  match settings.get? keywordKey with
  | none => .ok Inhabited.default
  | some s =>
      match Keyword.ofString s with
      | .ok k => .ok k
      | .error reason => .error (.invalidParameter keywordKey reason)

/-- How many seconds a run may take; no number means as long as it wants. -/
def timeout? (settings : Settings) : Option Nat :=
  (settings.getNatural? timeoutKey).filter (0 < ·)

end Settings

end CodeBlock
