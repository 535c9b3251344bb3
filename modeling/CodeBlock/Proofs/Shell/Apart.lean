import CodeBlock.Proofs.Shell.Expansion
import CodeBlock.Shell.Run

set_option autoImplicit false

/-! # What runs apart leaves its shell as it was

What stands in parentheses, the parts of a pipe, a command whose output is used and a shell that is started as
a program run in a scope of their own. Whatever the commands are and however they are run, the scope around
comes back as it was: its variables, functions, arguments, descriptors, traps and directory. Nor does such a
command say how the shell around goes on, unless it is by a signal, or because the time is over.

The words of a command are expanded in the shell itself. They may set variables, and so may change what is kept
beside these, but nothing else. -/

namespace CodeBlock.Shell

namespace Machine

variable {m after : Machine}

@[simp] theorem scope_writeTo (stream : Option Stream) (s : List Char) : (m.writeTo stream s).scope = m.scope := by
  unfold writeTo
  split
  · rfl
  · split <;> rfl

@[simp] theorem scope_write (descriptor : Nat) (s : List Char) : (m.write descriptor s).scope = m.scope :=
  scope_writeTo _ _

@[simp] theorem scope_warn (s : List Char) : (m.warn s).scope = m.scope := scope_writeTo _ _

@[simp] theorem scope_withStatus (status : Nat) : (m.withStatus status).scope = m.scope := rfl

@[simp] theorem scope_fail (status : Nat) (s : List Char) : (m.fail status s).scope = m.scope := scope_warn _

@[simp] theorem scope_abort (s : List Char) : (m.abort s).scope = m.scope := scope_warn _

@[simp] theorem scope_expire : m.expire.scope = m.scope := rfl

@[simp] theorem scope_leave (rest : List Char) : (m.leave rest).scope = m.scope := by
  unfold leave
  split <;> rfl

@[simp] theorem scope_wait (microseconds : Nat) : (m.wait microseconds).scope = m.scope := by
  unfold wait
  dsimp only
  split
  · split <;> rfl
  · rfl

@[simp] theorem scope_receive (process : Nat) (signal : Signal) : (m.receive process signal).scope = m.scope := by
  unfold receive
  dsimp only
  split
  · rfl
  · cases signal.effect <;> rfl

@[simp] theorem scope_checked : m.checked.scope = m.scope := by
  unfold checked
  split_ifs <;> rfl

/-! ## Copies of a shell -/

@[simp] theorem scope_rejoin : (m.rejoin after).scope = m.scope := by
  have hreceived : ∀ (sent : List (Nat × Signal)) (m : Machine),
      (sent.foldr (fun signal m => m.receive signal.1 signal.2) m).scope = m.scope := by
    intro sent m
    induction sent with
    | nil => rfl
    | cons signal sent ih => simp [ih]
  unfold rejoin
  dsimp only
  split
  · rfl
  · rfl
  · rw [hreceived]

/-- How something that ran apart was left does not matter to the shell around, be it by an exit, by an error, or
    by leaving loops that are not its own. -/
theorem flow_rejoin (hkilled : ∀ process signal, after.flow ≠ .killed process signal)
    (hexpired : after.flow ≠ .expired) (hpending : after.pending = []) : (m.rejoin after).flow = .onward := by
  unfold rejoin
  split
  · exact absurd ‹_› (hkilled _ _)
  · exact absurd ‹_› hexpired
  · rw [hpending]
    rfl

end Machine

section

variable (run : Runner) (m : Machine)

open Machine (scope_rejoin)

@[simp] theorem scope_runApart (f : Machine → Machine) : (runApart run f m).scope = m.scope := scope_rejoin

theorem scope_substitute (body : Command) : (substitute run body m).2.scope = m.scope := by
  unfold substitute
  split
  · rfl
  · exact scope_runApart run _ _

@[simp] theorem scope_runShell (name : List Char) (arguments : List (List Char)) (options : List Char)
    (f : Machine → Machine) : (runShell run name arguments options f m).scope = m.scope := by
  unfold runShell
  dsimp only
  split
  · split_ifs
    · exact scope_rejoin
    · exact scope_rejoin
    · rw [Machine.scope_warn]
      exact scope_rejoin
    · exact scope_rejoin
  · exact scope_rejoin

/-! ## Words -/

def Scope.lessVariables (scope : Scope) : Scope :=
  { scope with vars := [], exported := [], found := [], optionIndex := 0, optionOffset := none }

theorem lessVariables_assign (name : String) (value : List Char) :
    (m.assign name value).scope.lessVariables = m.scope.lessVariables := by
  have hpublish : (if m.isOn 'a' then m.publish name else m).scope.lessVariables = m.scope.lessVariables := by
    unfold Machine.publish
    split_ifs <;> rfl
  unfold Machine.assign
  split
  · rw [Machine.scope_abort]
  · split
    · rw [Machine.scope_abort]
    · dsimp only
      generalize (if m.isOn 'a' then m.publish name else m) = published at hpublish
      split
      · exact hpublish
      · split_ifs
        · rw [Machine.scope_abort]
          exact hpublish
        · exact hpublish
      · exact hpublish

/-- Expanding words changes nothing but variables. -/
theorem isSteady_lessVariables : IsSteady (substitute run)
    fun m after => after.scope.lessVariables = m.scope.lessVariables where
  refl _ := rfl
  trans hab hbc := hbc.trans hab
  abort _ s := congrArg Scope.lessVariables (Machine.scope_abort s)
  assign := lessVariables_assign
  output body m := congrArg Scope.lessVariables (scope_substitute run m body)

/-! ## Commands -/

/-- Nothing that is run in parentheses changes the scope around them. -/
theorem scope_perform_apart (line : Nat) (body : Command) (redirections : List Redirection) :
    (perform run (.apart line body redirections) m).scope = m.scope := by
  unfold perform
  split
  · rfl
  · dsimp only
    rw [Machine.scope_checked, scope_runApart]

theorem lessVariables_remember (name path : List Char) :
    (remember name path m).scope.lessVariables = m.scope.lessVariables := by
  unfold remember
  split_ifs <;> rfl

theorem lessVariables_findPiped (command : Command) :
    (findPiped run command m).scope.lessVariables = m.scope.lessVariables := by
  refine List.foldlRecOn (motive := fun after : Machine => after.scope.lessVariables = m.scope.lessVariables)
    _ _ rfl fun after hafter name _ => ?_
  split
  · exact (lessVariables_remember after _ _).trans hafter
  · exact hafter

/-- The parts of a pipe change nothing in the scope around it, where only programs are looked up for them. -/
theorem lessVariables_perform_pipe (source target : Command) :
    (perform run (.pipe source target) m).scope.lessVariables = m.scope.lessVariables := by
  have hpiped := lessVariables_findPiped run m (.pipe source target)
  unfold perform
  split
  · rfl
  · dsimp only
    split_ifs
    · rw [Machine.scope_checked]
      change (runApart run _ _).scope.lessVariables = _
      rw [scope_runApart]
      change (runApart run _ _).scope.lessVariables = _
      rw [scope_runApart]
      exact hpiped
    · rw [scope_runApart]
      exact hpiped

/-- The descriptors of a command with redirections are connected for that command alone. -/
theorem descriptors_perform_redirected (line : Nat) (body : Command) (redirections : List Redirection) :
    (perform run (.redirected line body redirections) m).scope.descriptors = m.scope.descriptors := by
  have hwords := congrArg Scope.descriptors
    ((isSteady_lessVariables run).targetsOf redirections { m with line := line })
  unfold perform
  split
  · rfl
  · dsimp only
    split
    · exact hwords
    · split
      · exact hwords
      · exact hwords

end

/-- No line of a text is run any more once the shell does not go on. -/
theorem runLines_of_not_goesOn (run : Runner) {m : Machine} (hm : m.goesOn = false) (depth fuel : Nat)
    (source : Source) : runLines run depth fuel source m = m := by
  cases fuel with
  | zero => rfl
  | succ fuel => rw [runLines, hm, if_neg Bool.false_ne_true]

end CodeBlock.Shell
