import CodeBlock.Shell.Arithmetic

set_option autoImplicit false

/-! # Signals

A signal has a number and a name. Most of them end the process that they are sent to, if it has not
said what is to be done instead. -/

namespace CodeBlock.Shell

/-- What a signal does to a process that says nothing else. -/
inductive SignalEffect where
  | ends
  | ignored
  | stops
  deriving DecidableEq, Repr

/-- A signal. -/
structure Signal where
  number : Nat
  name : String
  effect : SignalEffect
  /-- What is said of a process that it ended. -/
  report : String
  deriving DecidableEq, Repr

namespace Signal

/-- The signals that have names of their own. -/
def named : List Signal := [
  ⟨1, "HUP", .ends, "Hangup"⟩, ⟨2, "INT", .ends, ""⟩, ⟨3, "QUIT", .ends, "Quit"⟩,
  ⟨4, "ILL", .ends, "Illegal instruction"⟩, ⟨5, "TRAP", .ends, "Trace/breakpoint trap"⟩,
  ⟨6, "ABRT", .ends, "Aborted"⟩, ⟨7, "BUS", .ends, "Bus error"⟩,
  ⟨8, "FPE", .ends, "Floating point exception"⟩, ⟨9, "KILL", .ends, "Killed"⟩,
  ⟨10, "USR1", .ends, "User defined signal 1"⟩, ⟨11, "SEGV", .ends, "Segmentation fault"⟩,
  ⟨12, "USR2", .ends, "User defined signal 2"⟩, ⟨13, "PIPE", .ends, ""⟩,
  ⟨14, "ALRM", .ends, "Alarm clock"⟩, ⟨15, "TERM", .ends, "Terminated"⟩,
  ⟨16, "16", .ends, "Stack fault"⟩, ⟨17, "CHLD", .ignored, ""⟩, ⟨18, "CONT", .ignored, ""⟩,
  ⟨19, "STOP", .stops, ""⟩, ⟨20, "TSTP", .stops, ""⟩, ⟨21, "TTIN", .stops, ""⟩,
  ⟨22, "TTOU", .stops, ""⟩, ⟨23, "URG", .ignored, ""⟩, ⟨24, "XCPU", .ends, "CPU time limit exceeded"⟩,
  ⟨25, "XFSZ", .ends, "File size limit exceeded"⟩, ⟨26, "VTALRM", .ends, "Virtual timer expired"⟩,
  ⟨27, "PROF", .ends, "Profiling timer expired"⟩, ⟨28, "WINCH", .ignored, ""⟩,
  ⟨29, "IO", .ends, "I/O possible"⟩, ⟨30, "PWR", .ends, "Power failure"⟩,
  ⟨31, "SYS", .ends, "Bad system call"⟩, ⟨32, "32", .ends, "Unknown signal 32"⟩,
  ⟨33, "33", .ends, "Unknown signal 33"⟩]

/-- The signals that are only counted, from the one of the lowest number up and from that of the highest
    number down. -/
def counted : List Signal :=
  let report := fun (n : Nat) => "Real-time signal " ++ toString n
  (List.range 16).map (fun i =>
    ⟨34 + i, if i = 0 then "RTMIN" else "RTMIN+" ++ toString i, .ends, report i⟩) ++
  (List.range 15).map (fun i =>
    ⟨50 + i, if i = 14 then "RTMAX" else "RTMAX-" ++ toString (14 - i), .ends, report (16 + i)⟩)

/-- The signals. -/
def all : List Signal := named ++ counted

/-- Whether a process may say itself what a signal does. -/
def canBeCaught (s : Signal) : Bool := s.name != "KILL" && s.name != "STOP"

def ofNumber? (n : Nat) : Option Signal := all.find? fun signal => signal.number == n

/-- The signal that a name or a number stands for. -/
def ofText? (s : List Char) : Option Signal :=
  let name := String.ofList (s.map Char.toUpper)
  if !s.isEmpty && s.all Char.isDigit then ofNumber? (ofDigits 10 s)
  else all.find? fun signal => signal.name == name

end Signal

end CodeBlock.Shell
