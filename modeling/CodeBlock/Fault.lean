set_option autoImplicit false

/-! # Why a block could not be run

A run that fails is no fault: what it printed is its result. Faults are the cases in which nothing
was run, or nothing came back. -/

namespace CodeBlock

/-- Why there is no result. -/
inductive Fault where
  /-- A parameter has a value that cannot be used. -/
  | invalidParameter (name reason : String)
  /-- A session was asked for. -/
  | sessionUnsupported (session : String)
  /-- The interpreter could not be started. -/
  | notStarted (command reason : String)
  /-- The interpreter ran longer than it may. -/
  | outOfTime (seconds : Nat)
  /-- A file could not be used. -/
  | fileUnusable (reason : String)
  deriving DecidableEq, Repr

/-- The wording of a fault. -/
def Fault.message : Fault → String
  | invalidParameter name reason => "invalid parameter `" ++ name ++ "`: " ++ reason
  | sessionUnsupported session => "sessions are not supported (got session `" ++ session ++ "`)"
  | notStarted command reason => "failed to spawn `" ++ command ++ "`: " ++ reason
  | outOfTime seconds => "interpreter timed out after " ++ toString seconds ++ "s"
  | fileUnusable reason => reason

/-- The cause behind a fault, where its message repeats one. -/
def Fault.cause? : Fault → Option String
  | notStarted _ reason => some reason
  | _ => none

end CodeBlock
