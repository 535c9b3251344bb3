import CodeBlock.Program.Start

set_option autoImplicit false

/-! # The program

The program reads what its options name, hands all of it to the run, and prints what the run gives. -/

namespace CodeBlock

/-- The variables of the environment that a run looks at. -/
def watchedVariables : List String :=
  [Settings.binaryKey, Settings.commandKey, Settings.keywordKey, Settings.timeoutKey, colourVariable,
    "HOME", "XDG_CONFIG_HOME", "TMPDIR", "PATH", "USER", "LANG"]

/-- The place that a path leads to from a working directory. -/
def placeOf (working : FilePlace) (path : String) : FilePlace :=
  ((Text.splitAll '/' path.toList).map String.ofList).foldl
    (fun place name =>
      if name = "" ∨ name = "." then place
      else if name = ".." then place.dropLast
      else place ++ [name])
    (if path.toList.head? = some '/' then [] else working)

/-- The environment, as far as a run looks at it. -/
def readEnvironment : IO Environment :=
  watchedVariables.foldlM (fun env name => do return env.assign name (← IO.getEnv name))
    Environment.empty

/-- The files at the ends of some paths, as far as they can be read. -/
def readFiles (working : FilePlace) (directories : List FilePlace) (paths : List String) : IO Files :=
  paths.foldlM (fun (files : Files) (path : String) => do
    try
      let bytes ← IO.FS.readBinFile path
      return files.write (placeOf working path) bytes.toList
    catch _ => return files) ⟨[], working :: directories, working⟩

/-- What is left of a stream. -/
partial def readRest (stream : IO.FS.Stream) (read : ByteArray) : IO ByteArray := do
  let bytes ← stream.read 65536
  if bytes.isEmpty then return read else readRest stream (read ++ bytes)

/-- The paths of the files that a run with some options reads. -/
def namedPaths (environment : Environment) (arguments : List String) : List String :=
  let named := match Options.ofArguments arguments with
    | .ok o => o.file.toList ++ o.parametersFile.toList
    | .error _ => []
  settingsPath environment :: named

def readsInput (arguments : List String) (isTerminal : Bool) : Bool :=
  match Options.ofArguments arguments with
  | .ok o => o.readsInput && !(isTerminal && o.file.isNone)
  | .error _ => false

/-- What the program finds when it is started. -/
def readSurroundings (arguments : List String) : IO Surroundings := do
  let environment ← readEnvironment
  let working := placeOf [] (← IO.currentDir).toString
  let temporary := placeOf working ((environment.get? "TMPDIR").getD "/tmp")
  let files ← readFiles working [temporary] (namedPaths environment arguments)
  let stdin ← IO.getStdin
  let inputIsTerminal ← stdin.isTty
  let input ← if readsInput arguments inputIsTerminal then readRest stdin .empty else pure .empty
  let outputIsTerminal ← (← IO.getStdout).isTty
  return ⟨arguments, environment, files, input.toList, inputIsTerminal, outputIsTerminal⟩

end CodeBlock

/-- Runs the program. -/
def main (arguments : List String) : IO UInt32 := do
  let surroundings ← CodeBlock.readSurroundings arguments
  let mark := toString (← IO.monoNanosNow)
  let ending := surroundings.start mark
  (← IO.getStdout).putStr ending.output
  (← IO.getStderr).putStr ending.errors
  return UInt32.ofNat (ending.status % 256).toNat
