import CodeBlock.Environment
import Mathlib.Data.List.ReduceOption
import Mathlib.Data.List.TakeDrop

set_option autoImplicit false

/-! # Overrides undo themselves

The overrides of a variable that are not undone yet are a stack, and the oldest one remembers what the
variable was before it was overridden at all. So a variable **rests on** what its oldest override remembers,
or on what it is if there is none. As long as the oldest override is undone last, only an assignment of a
variable that is not overridden changes what a variable rests on. -/

namespace CodeBlock

namespace OverriddenEnvironment

/-- An environment without overrides. -/
def of (environment : Environment) : OverriddenEnvironment := ⟨environment, []⟩

/-! ## Stacks of overrides -/

/-- The overrides of a variable that are not undone, oldest first. -/
def overridesOf (name : String) (overrides : List (Option Override)) : List Override :=
  overrides.reduceOption.filter (·.name == name)

def isOverridden (e : OverriddenEnvironment) (name : String) : Bool :=
  !(overridesOf name e.overrides).isEmpty

/-- Whether a change leaves alone every override that has a newer one of the same variable over it. -/
def undoesNewest (e : OverriddenEnvironment) : EnvironmentStep → Bool
  | .undo number =>
      match e.overrides[number]? with
      | some (some o) => (overridesOf o.name (e.overrides.drop (number + 1))).isEmpty
      | _ => true
  | _ => true

/-- Whether changes undo the overrides of each variable in the reverse of the order in which they were
    made. -/
def undoesInReverse (e : OverriddenEnvironment) : List EnvironmentStep → Bool
  | [] => true
  | s :: steps => e.undoesNewest s && (e.step s).undoesInReverse steps

/-- Whether a change assigns a variable that is not overridden. -/
def isLasting (e : OverriddenEnvironment) : EnvironmentStep → Bool
  | .assign name _ => !e.isOverridden name
  | _ => false

theorem exists_of_isLasting {e : OverriddenEnvironment} {s : EnvironmentStep} (h : e.isLasting s = true) :
    ∃ name value, s = .assign name value := by
  cases s with
  | assign name value => exact ⟨name, value, rfl⟩
  | override name value => cases h
  | undo number => cases h

/-- Those of some changes that assign a variable while it is not overridden. -/
def lasting (e : OverriddenEnvironment) : List EnvironmentStep → List EnvironmentStep
  | [] => []
  | s :: steps => if e.isLasting s then s :: (e.step s).lasting steps else (e.step s).lasting steps

@[simp]
theorem overridesOf_append (name : String) (overrides more : List (Option Override)) :
    overridesOf name (overrides ++ more) = overridesOf name overrides ++ overridesOf name more := by
  simp [overridesOf, List.reduceOption_append]

@[simp]
theorem overridesOf_cons_none (name : String) (overrides : List (Option Override)) :
    overridesOf name (none :: overrides) = overridesOf name overrides := by
  simp [overridesOf]

theorem overridesOf_cons_self {o : Override} {name : String} (h : o.name = name)
    (overrides : List (Option Override)) :
    overridesOf name (some o :: overrides) = o :: overridesOf name overrides := by
  simp [overridesOf, h]

theorem overridesOf_cons_ne {o : Override} {name : String} (h : o.name ≠ name)
    (overrides : List (Option Override)) :
    overridesOf name (some o :: overrides) = overridesOf name overrides := by
  simp [overridesOf, h]

/-- An override stands between the older ones and the newer ones, and leaves a gap there when it is
    undone. -/
theorem exists_of_getElem?_eq_some {overrides : List (Option Override)} {number : Nat} {o : Override}
    (h : overrides[number]? = some (some o)) :
    ∃ older newer, overrides = older ++ some o :: newer ∧ overrides.drop (number + 1) = newer ∧
      overrides.set number none = older ++ none :: newer := by
  obtain ⟨hlt, hget⟩ := List.getElem?_eq_some_iff.1 h
  refine ⟨overrides.take number, overrides.drop (number + 1), ?_, rfl, ?_⟩
  · rw [← hget, List.getElem_cons_drop, List.take_append_drop]
  · rw [List.set_eq_take_append_cons_drop, if_pos hlt]

/-! ## What a variable rests on -/

/-- What a variable will be once all its overrides are undone: what the oldest one remembers. -/
def resting (e : OverriddenEnvironment) (name : String) : Option String :=
  (overridesOf name e.overrides).head?.elim (e.environment.get? name) Override.previous

theorem resting_of_not_isOverridden {e : OverriddenEnvironment} {name : String}
    (h : e.isOverridden name = false) : e.resting name = e.environment.get? name := by
  have hnone : overridesOf name e.overrides = [] := by simpa [isOverridden] using h
  rw [resting, hnone, List.head?_nil, Option.elim_none]

/-- A variable that is overridden rests on the same, whatever it is at the moment. -/
theorem resting_of_isOverridden {e : OverriddenEnvironment} {name : String}
    (h : e.isOverridden name = true) (environment : Environment) :
    resting ⟨environment, e.overrides⟩ name = e.resting name := by
  rw [isOverridden] at h
  rw [resting, resting]
  cases hoverrides : overridesOf name e.overrides with
  | nil => simp [hoverrides] at h
  | cons oldest newer => rfl

/-- A new override does not change what variables rest on. -/
theorem resting_step_override (e : OverriddenEnvironment) (name value other : String) :
    (e.step (.override name value)).resting other = e.resting other := by
  rw [step, Override.make, resting, resting, overridesOf_append]
  by_cases h : name = other
  · rw [overridesOf_cons_self h]
    subst h
    cases overridesOf name e.overrides with
    | nil => rfl
    | cons oldest newer => rfl
  · have hget : (e.environment.set name value).get? other = e.environment.get? other :=
      Environment.get?_assign_ne e.environment (Ne.symm h) (some value)
    rw [overridesOf_cons_ne h, hget]
    exact congrArg (Option.elim · _ _) (congrArg List.head? (List.append_nil _))

theorem resting_step_undo {e : OverriddenEnvironment} {number : Nat}
    (h : e.undoesNewest (.undo number) = true) (other : String) :
    (e.step (.undo number)).resting other = e.resting other := by
  cases hoverride : e.overrides[number]? with
  | none => simp only [step, hoverride]
  | some entry =>
      cases entry with
      | none => simp only [step, hoverride]
      | some o =>
          obtain ⟨older, newer, hoverrides, hnewer, hundone⟩ := exists_of_getElem?_eq_some hoverride
          simp only [undoesNewest, hoverride, hnewer, List.isEmpty_iff] at h
          simp only [step, hoverride, resting]
          rw [hundone, hoverrides, overridesOf_append, overridesOf_append, overridesOf_cons_none]
          by_cases hname : o.name = other
          · subst hname
            rw [overridesOf_cons_self rfl, h, Override.undo, Environment.get?_assign_self]
            -- the override is the oldest one of its variable just if there is none before it
            cases overridesOf o.name older with
            | nil => rfl
            | cons oldest between => rfl
          · rw [overridesOf_cons_ne hname, Override.undo, Environment.get?_assign_ne _ (Ne.symm hname)]

theorem resting_step_assign_of_isOverridden {e : OverriddenEnvironment} {name : String}
    (h : e.isOverridden name = true) (value : Option String) (other : String) :
    (e.step (.assign name value)).resting other = e.resting other := by
  by_cases hother : other = name
  · subst hother
    exact resting_of_isOverridden h _
  · rw [step, resting, resting, Environment.get?_assign_ne e.environment hother]

/-! ## Runs -/

def RestsOn (e : OverriddenEnvironment) (base : Environment) : Prop :=
  ∀ name, e.resting name = base.get? name

theorem RestsOn.assign {e : OverriddenEnvironment} {base : Environment} (hbase : e.RestsOn base)
    {name : String} (h : e.isOverridden name = false) (value : Option String) :
    (e.step (.assign name value)).RestsOn (base.assign name value) := by
  intro other
  by_cases hother : other = name
  · subst hother
    have hfree : (e.step (.assign other value)).isOverridden other = false := h
    rw [resting_of_not_isOverridden hfree, OverriddenEnvironment.step, Environment.get?_assign_self,
      Environment.get?_assign_self]
  · rw [Environment.get?_assign_ne base hother, ← hbase other, OverriddenEnvironment.step, resting, resting,
      Environment.get?_assign_ne e.environment hother]

/-- A change leaves alone what variables rest on, or it is an assignment that lasts. -/
theorem RestsOn.step {e : OverriddenEnvironment} {base : Environment} (hbase : e.RestsOn base)
    {s : EnvironmentStep} (h : e.undoesNewest s = true) :
    (e.step s).RestsOn (if e.isLasting s then ((of base).step s).environment else base) := by
  cases s with
  | override name value => exact fun other => (resting_step_override e name value other).trans (hbase other)
  | undo number => exact fun other => (resting_step_undo h other).trans (hbase other)
  | assign name value =>
      cases hname : e.isOverridden name with
      | true =>
          rw [isLasting, hname]
          exact fun other => (resting_step_assign_of_isOverridden hname value other).trans (hbase other)
      | false =>
          rw [isLasting, hname]
          exact hbase.assign hname value

/-- Whatever is overridden in between, variables rest on what the assignments that last make of them. -/
theorem RestsOn.run {e : OverriddenEnvironment} {base : Environment} (hbase : e.RestsOn base)
    {steps : List EnvironmentStep} (h : e.undoesInReverse steps = true) :
    (e.run steps).RestsOn ((of base).run (e.lasting steps)).environment := by
  induction steps generalizing e base with
  | nil => exact hbase
  | cons s steps ih =>
      rw [undoesInReverse, Bool.and_eq_true] at h
      have hrest := ih (hbase.step h.1) h.2
      rw [lasting]
      cases hlasting : e.isLasting s with
      | false =>
          rw [hlasting] at hrest
          exact hrest
      | true =>
          -- a change that lasts is an assignment, and makes no override in the environment below
          obtain ⟨name, value, rfl⟩ := exists_of_isLasting hlasting
          rw [hlasting] at hrest
          exact hrest

theorem restsOn_of (environment : Environment) : (of environment).RestsOn environment := fun _ => rfl

/-- Once everything is undone, variables are what they rest on. -/
theorem RestsOn.get?_eq {e : OverriddenEnvironment} {base : Environment} (hbase : e.RestsOn base)
    (hundone : ∀ o ∈ e.overrides, o = none) (name : String) :
    e.environment.get? name = base.get? name := by
  have hfree : e.isOverridden name = false := by
    have hnone : e.overrides.reduceOption = [] :=
      List.filterMap_eq_nil_iff.2 fun o ho => hundone o ho
    simp [isOverridden, overridesOf, hnone]
  rw [← hbase name, resting_of_not_isOverridden hfree]

/-- Overrides that are all undone, those of each variable in reverse, leave the environment as if only those
    assignments had been made that were made while their variable was not overridden. -/
theorem get?_run_eq_lasting (environment : Environment) {steps : List EnvironmentStep}
    (horder : (of environment).undoesInReverse steps = true)
    (hundone : ∀ o ∈ ((of environment).run steps).overrides, o = none) (name : String) :
    ((of environment).run steps).environment.get? name =
      ((of environment).run ((of environment).lasting steps)).environment.get? name :=
  ((restsOn_of environment).run horder).get?_eq hundone name

/-- Overrides of two variables, undone across each other, with assignments below and beside them. -/
theorem get?_run_eq_lasting_interleaved :
    let start : Environment := ⟨[("A", "0"), ("B", "b")]⟩
    let steps : List EnvironmentStep :=
      [.override "A" "1", .assign "A" (some "5"), .override "B" "x", .override "A" "2",
        .assign "C" (some "7"), .undo 1, .undo 2, .undo 2, .assign "B" none, .undo 0]
    (of start).undoesInReverse steps = true ∧ (∀ o ∈ ((of start).run steps).overrides, o = none) ∧
      (of start).lasting steps = [.assign "C" (some "7"), .assign "B" none] ∧
      ∀ name, ((of start).run steps).environment.get? name =
        ((of start).run [.assign "C" (some "7"), .assign "B" none]).environment.get? name := by
  intro start steps
  have horder : (of start).undoesInReverse steps = true := by decide
  have hundone : ∀ o ∈ ((of start).run steps).overrides, o = none := by decide
  have hlasting : (of start).lasting steps = [.assign "C" (some "7"), .assign "B" none] := by decide
  refine ⟨horder, hundone, hlasting, fun name => ?_⟩
  rw [← hlasting]
  exact get?_run_eq_lasting start horder hundone name

end OverriddenEnvironment

end CodeBlock
