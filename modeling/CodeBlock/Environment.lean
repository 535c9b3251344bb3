import CodeBlock.Table

set_option autoImplicit false

/-! # The environment and overrides

The environment holds variables, each set to a text or not set at all. An **override** sets a
variable for a while: it remembers what the variable was before, and undoing it brings that back.
Overrides are numbered in the order in which they are made, and each is undone at most once. -/

namespace CodeBlock

/-- Variables with their texts. -/
structure Environment where
  vars : List (String × String)
  deriving Repr

namespace Environment

/-- The environment without variables. -/
def empty : Environment := ⟨[]⟩

instance : Inhabited Environment := ⟨empty⟩

/-- The text of a variable, if it is set. -/
def get? (env : Environment) (name : String) : Option String := Table.get? name env.vars

def set (env : Environment) (name value : String) : Environment :=
  ⟨Table.put name value env.vars⟩

/-- The environment without a variable. -/
def unset (env : Environment) (name : String) : Environment := ⟨Table.erase name env.vars⟩

/-- The environment with a variable set, or not set. -/
def assign (env : Environment) (name : String) : Option String → Environment
  | some value => env.set name value
  | none => env.unset name

/-- A variable is what it was assigned. -/
theorem get?_assign_self (env : Environment) (name : String) (value : Option String) :
    (env.assign name value).get? name = value := by
  cases value with
  | none => exact Table.get?_erase_self name env.vars
  | some v => exact Table.get?_put_self name v env.vars

/-- Assigning one variable leaves the others alone. -/
theorem get?_assign_ne (env : Environment) {name other : String} (h : other ≠ name)
    (value : Option String) : (env.assign name value).get? other = env.get? other := by
  cases value with
  | none => exact Table.get?_erase_ne h env.vars
  | some v => exact Table.get?_put_ne h v env.vars

end Environment

/-- What undoes the setting of a variable. -/
structure Override where
  name : String
  /-- What the variable was before. -/
  previous : Option String
  deriving DecidableEq, Repr

namespace Override

/-- Sets a variable and remembers what it was. -/
def make (env : Environment) (name value : String) : Environment × Override :=
  (env.set name value, ⟨name, env.get? name⟩)

/-- Brings back what the variable was. -/
def undo (o : Override) (env : Environment) : Environment := env.assign o.name o.previous

end Override

/-! ## Histories -/

/-- A change of the environment. -/
inductive EnvironmentStep where
  /-- Makes an override, which gets the next number. -/
  | override (name value : String)
  /-- Undoes the override of a number, if it is there and not undone yet. -/
  | undo (number : Nat)
  /-- Sets or unsets a variable for good. -/
  | assign (name : String) (value : Option String)
  deriving DecidableEq, Repr

/-- An environment with the overrides that were made in it; those undone leave a gap. -/
structure OverriddenEnvironment where
  environment : Environment
  overrides : List (Option Override)

namespace OverriddenEnvironment

/-- The environment after a change. -/
def step (e : OverriddenEnvironment) : EnvironmentStep → OverriddenEnvironment
  | .override name value =>
      let (environment, made) := Override.make e.environment name value
      ⟨environment, e.overrides ++ [some made]⟩
  | .undo number =>
      match e.overrides[number]? with
      | some (some o) => ⟨o.undo e.environment, e.overrides.set number none⟩
      | _ => e
  | .assign name value => ⟨e.environment.assign name value, e.overrides⟩

/-- The environment after each of some changes. -/
def history (e : OverriddenEnvironment) : List EnvironmentStep → List Environment
  | [] => []
  | s :: steps => (e.step s).environment :: (e.step s).history steps

/-- The environment after all of some changes. -/
def run (e : OverriddenEnvironment) (steps : List EnvironmentStep) : OverriddenEnvironment :=
  steps.foldl step e

end OverriddenEnvironment

end CodeBlock
