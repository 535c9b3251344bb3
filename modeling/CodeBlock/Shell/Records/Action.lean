import CodeBlock.Shell.Records.Session

set_option autoImplicit false

/-! # What statements do

Statements look up values and store them, read records, and print. Arguments that are settings of variables
are made when their turn comes, and the first text that is asked for is the input if no argument names
one. -/

namespace CodeBlock.Shell.Records

/-- Where a value is stored. -/
inductive Slot where
  | named (name : String)
  | field (number : Nat)
  | element (table : Nat) (key : List Char)

namespace Action

/-! ## The state -/

/-- The text of a value. -/
def textOf (v : Value) : Action (List Char) := do
  return (← get).textOf v

/-- Fails with a message, and where in the input that was. -/
def fail {α : Type} (message : List Char) : Action α := do
  let s ← get
  let at_ := fun (name : String) => (s.setting name)
  throw (.failed ("run time error: ".toList ++ message ++ "\n\tFILENAME=\"".toList ++ at_ "FILENAME" ++
    "\" FNR=".toList ++ at_ "FNR" ++ " NR=".toList ++ at_ "NR"))

/-- The expression that a text is. -/
def regex (s : List Char) : Action Regex :=
  match regexOf s with
  | .ok r => return r
  | .error e => fail (failureText e s)

/-- The value of a slot. -/
def read (slot : Slot) : Action Value := do
  let s ← get
  return match slot with
    | .named name => s.get name
    | .field number => s.field number
    | .element table key => s.element table key

/-- Stores a value. -/
def store (slot : Slot) (v : Value) : Action Unit := do
  match slot with
  | .named name =>
      let isGlobal := ((← get).locals.lookup name).isNone
      if isGlobal && name = "NF" && v.toWhole < 0 then fail "negative value assigned to NF".toList
      modify (·.set name v)
      if isGlobal && (name = "FS" || name = "RS") then
        let text ← textOf v
        if text.length > 1 then
          let _ ← regex text
  | .field number => modify (·.setField number v)
  | .element table key => modify (·.setElement table key v)

/-- The table that a name stands for, for a function that may use it. -/
def shared (name : String) : Action Cell := do
  let (number, s) := (← get).tableOf name
  set s
  return .table number

/-- Makes texts the whole of a table; gives their number. -/
def storeParts (table : String) (parts : List (List Char)) : Action Value := do
  let (number, s) := (← get).tableOf table
  set (s.setTable number (.ofList (parts.map Value.ofInput)))
  return .ofNat parts.length

/-- Goes on unless the machine has stopped. -/
def checkMachine : Action Unit := do
  unless (← get).machine.goesOn do throw .halted

/-! ## Reading -/

def countRecord (ofAll : Bool) : Action Unit := modify fun s =>
  let count := fun (s : Session) (name : String) =>
    s.setGlobal name (.number ((s.get name).toNumber.add (.ofNat 1)))
  if ofAll then count (count s "NR") "FNR" else count s "FNR"

/-- The setting of a variable that an argument is. -/
def settingOf? (argument : List Char) : Option (String × List Char) :=
  let name := argument.takeWhile Regex.isWordChar
  match name, argument.drop name.length with
  | c :: _, '=' :: value =>
      if c.isDigit then none
      else some (String.ofList name, unescapeText (value.length + 1) value)
  | _, _ => none

/-- The next argument that is no setting; settings are made. -/
def nextText : Nat → Action (Option (List Char))
  | 0 => return none
  | fuel + 1 => do
      let s ← get
      let count := (s.get "ARGC").toWhole
      if count ≤ s.nextArgument then return none
      set { s with nextArgument := s.nextArgument + 1 }
      let (number, _) := s.tableOf "ARGV"
      let argument := s.textOf (s.element number (toString s.nextArgument).toList)
      if argument.isEmpty then nextText fuel
      else
        match settingOf? argument with
        | some (name, value) =>
            store (.named name) (.ofInput value)
            nextText fuel
        | none => return some argument

/-- What a file holds. -/
def contentOf (name : List Char) : Action (Except FileError (List Char)) := do
  let m := (← get).machine
  let text := m.readFile name
  if name = ['-'] || name = "/dev/stdin".toList then modify fun s => { s with machine := s.machine.leave [] }
  return text

/-- Opens the next text that is to be read. -/
def openNext : Action Bool := do
  let count := ((← get).get "ARGC").toWhole.toNat
  match ← nextText (min count 100000 + 1) with
  | some name =>
      modify fun s =>
        ((({ s with sawText := true }).setGlobal "FILENAME" (.text name)).setGlobal "FNR" (.ofNat 0))
      match ← contentOf name with
      | .ok text => modify fun s => { s with pending := some text }
      | .error .isDirectory => throw (.failed "read error (Is a directory)".toList)
      | .error e =>
          throw (.failed ("cannot open \"".toList ++ name ++ ("\" (" ++ fileReason e ++ ")").toList))
      return true
  | none =>
      if (← get).sawText then return false
      modify fun s =>
        { s with sawText := true, pending := some s.machine.input, machine := s.machine.leave [] }
      return true

/-- Reads the next record. -/
def nextRecord : Nat → Action (Option (List Char))
  | 0 => return none
  | fuel + 1 => do
      let s ← get
      match s.pending with
      | some text =>
          match s.recordEnd.first? text with
          | some (record, rest) =>
              set { s with pending := some rest }
              return some record
          | none =>
              set { s with pending := none }
              nextRecord fuel
      | none => if ← openNext then nextRecord fuel else return none

/-- Reads the next record and counts it. -/
def takeRecord : Action (Option (List Char)) := do
  let s ← get
  let record ← nextRecord (2 * ((s.get "ARGC").toWhole.toNat + 4))
  if record.isSome then countRecord true
  return record

/-- Takes the next record out of a source. -/
def takeOut (source : Source) : Action (Option (List Char)) := do
  let found := (← get).recordEnd.first? source.rest
  let rest := match found with
    | some (_, rest) => rest
    | none => []
  modify fun s =>
    { s with sources := { source with rest := rest } :: s.sources.filter (·.name != source.name) }
  return found.map (·.1)

/-- Reads a record from a source: a command, or else a file. -/
def takeFrom (run : Runner) (isCommand : Bool) (name : List Char) :
    Action (Except Unit (Option (List Char))) := do
  let s ← get
  match s.sources.find? (·.name == name) with
  | some source => return .ok (← takeOut source)
  | none =>
      if isCommand then
        let (text, status, s) := s.outputOf run name
        set s
        checkMachine
        return .ok (← takeOut ⟨name, text, status⟩)
      else
        match ← contentOf name with
        | .ok text => return .ok (← takeOut ⟨name, text, 0⟩)
        | .error .isDirectory => throw (.failed "read error (Is a directory)".toList)
        | .error _ => return .error ()

/-! ## Printing -/

/-- Prints a text to a file or a command. -/
def printTo (name : List Char) (isCommand atEnd : Bool) (text : List Char) : Action Unit := do
  if !isCommand && (name = ['-'] || name = "/dev/stdout".toList) then modify (·.print text)
  else if !isCommand && name = "/dev/stderr".toList then
    modify fun s => { s with machine := s.machine.write 2 text }
  else
    let s ← get
    match s.sinks.find? (·.name == name) with
    | some sink =>
        set { s with
          sinks := { sink with pieces := text :: sink.pieces } :: s.sinks.filter (·.name != name) }
    | none =>
        if isCommand then
          let s := s.flushAll
          set { s with sinks := ⟨name, true, [text]⟩ :: s.sinks }
        else if name = "/dev/null".toList then pure ()
        else
          match s.machine.placeFor name with
          | .ok place =>
              let m := if atEnd && (s.machine.files.content? place).isSome then s.machine
                else { s.machine with files := s.machine.files.write place [] }
              set { s with machine := m, sinks := ⟨name, false, [text]⟩ :: s.sinks }
          | .error e =>
              throw (.failed ("cannot open \"".toList ++ name ++
                ("\" for output (" ++ fileReason e ++ ")").toList))

/-- Closes a file or a command; gives the status. -/
def close (run : Runner) (name : List Char) : Action Int := do
  let s ← get
  let sourceStatus := (s.sources.find? (·.name == name)).map (·.status)
  let s := { s with sources := s.sources.filter (·.name != name) }
  match s.sinks.find? (·.name == name) with
  | some sink =>
      let (status, s) := s.closeSink run sink
      set s
      checkMachine
      return status
  | none =>
      set s
      return match sourceStatus with
        | some status => status
        | none => -1

end Action

end CodeBlock.Shell.Records
