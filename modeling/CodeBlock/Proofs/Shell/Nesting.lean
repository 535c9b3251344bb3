import CodeBlock.Proofs.Shell.Builtins
import CodeBlock.Shell.Run

set_option autoImplicit false

/-! # Commands end where they started

A command may call functions, go round loops, start programs and be left in the middle by an error, an exit or a
signal. However that goes, the shell stands afterwards in the same loops and calls as before, it is the same
process, and the variables that were to stay as they are still are. A step of a run is shown to keep this if what
runs the commands inside does, and from that it follows for runs of any depth. -/

namespace CodeBlock.Shell

open Machine (Keeps)

/-- Whether a way of running commands leaves the shell where it was. -/
def IsKeepingRunner (run : Runner) : Prop := ∀ (command : Command) (m : Machine), m.Keeps (run command m)

variable {run : Runner}

section

variable (m : Machine)

theorem keeps_connect (descriptor : Nat) (stream : Stream) : m.Keeps (m.connect descriptor stream) :=
  ⟨rfl, rfl, rfl, rfl, rfl, rfl, rfl, rfl, fun _ => id⟩

theorem keeps_disconnect (descriptor : Nat) : m.Keeps (m.disconnect descriptor) :=
  ⟨rfl, rfl, rfl, rfl, rfl, rfl, rfl, rfl, fun _ => id⟩

theorem Machine.Keeps.checked {m after : Machine} (h : m.Keeps after) : m.Keeps after.checked :=
  h.trans (.of_scope Machine.scope_checked)

theorem Machine.Keeps.withStatus {m after : Machine} (h : m.Keeps after) (status : Nat) :
    m.Keeps (after.withStatus status) := h

/-! ## Words and redirections -/

/-- Expanding words leaves the shell where it was, since what runs for them runs apart. -/
theorem isSteady_keeps (run : Runner) : IsSteady (substitute run) Keeps where
  refl := .refl
  trans := .trans
  abort := Machine.keeps_abort
  assign := Machine.keeps_assign
  output body m := .of_scope (scope_substitute run m body)

theorem keeps_connectAs (descriptor source : Nat) : m.Keeps (connectAs descriptor source m) := by
  unfold connectAs
  split
  · exact keeps_connect m _ _
  · exact keeps_disconnect m _

theorem keeps_connectFile (descriptor : Nat) (path : List Char) (use : FileUse) :
    m.Keeps (connectFile descriptor path use m) := by
  unfold connectFile
  dsimp only
  split
  · exact keeps_connectAs m _ _
  · split
    · exact keeps_connectAs m _ _
    · split
      · exact keeps_connectAs m _ _
      · split
        · split
          · split
            · exact ⟨rfl, rfl, rfl, rfl, rfl, rfl, rfl, rfl, fun _ => id⟩
            · exact ⟨rfl, rfl, rfl, rfl, rfl, rfl, rfl, rfl, fun _ => id⟩
          · exact keeps_connect m _ _
          · exact m.keeps_abort _
        · split
          · exact keeps_connect m _ _
          · split
            · exact m.keeps_abort _
            · split
              · exact m.keeps_abort _
              · split
                · exact ⟨rfl, rfl, rfl, rfl, rfl, rfl, rfl, rfl, fun _ => id⟩
                · exact ⟨rfl, rfl, rfl, rfl, rfl, rfl, rfl, rfl, fun _ => id⟩

theorem keeps_connectTarget (run : Runner) (descriptor : Nat) (target : Target) :
    m.Keeps (connectTarget run descriptor target m) := by
  cases target with
  | file path use => exact keeps_connectFile m descriptor path use
  | copy source =>
    cases source with
    | none => exact keeps_disconnect m _
    | some source =>
      unfold connectTarget
      dsimp only
      split
      · exact keeps_connect m _ _
      · exact m.keeps_abort _
  | here text =>
    have htext := (isSteady_keeps run).expandSegments false text m
    unfold connectTarget
    dsimp only
    split
    · exact htext.trans ⟨rfl, rfl, rfl, rfl, rfl, rfl, rfl, rfl, fun _ => id⟩
    · exact htext

theorem keeps_connectAll (run : Runner) (targets : List (Nat × Target)) : m.Keeps (connectAll run targets m).2 := by
  induction targets generalizing m with
  | nil => exact .refl m
  | cons target targets ih =>
    have htarget := keeps_connectTarget m run target.1 target.2
    unfold connectAll
    dsimp only
    split
    · exact htarget.trans (ih _)
    · exact htarget
    · exact htarget

end

/-! ## Texts -/

section

variable (hrun : IsKeepingRunner run) (m : Machine)

include hrun

theorem keeps_runLines (depth fuel : Nat) (source : Source) : m.Keeps (runLines run depth fuel source m) := by
  induction fuel generalizing source m with
  | zero => exact .refl m
  | succ fuel ih =>
    unfold runLines
    split
    · split
      · exact .of_scope (Machine.scope_abort _)
      · exact .refl m
      · exact (hrun _ m).trans (ih _ _)
    · exact .refl m

theorem keeps_runText (s : List Char) : m.Keeps (runText run s m) := by
  have hstart : m.Keeps (if isBlankText (s.length + 1) s then m.withStatus 0 else m) := by
    split <;> exact .refl m
  unfold runText
  exact hstart.trans (keeps_runLines hrun _ _ _ _)

/-- The action of a trap ends with the status that was before it to be kept for the actions inside. -/
theorem keeps_runAction (action : List Char) : m.Keeps (runAction run action m) := by
  have htext := keeps_runText hrun ({ m with
    scope.interrupted := m.scope.interrupted.or (some m.status)
    isTested := false
    command := [] }) action
  exact ⟨htext.name, htext.process, htext.ancestors, htext.isCopy, htext.loops, htext.calls, rfl, htext.isHiding,
    htext.constants⟩

theorem keeps_answerSignals : m.Keeps (answerSignals run m) := by
  unfold answerSignals
  split
  · exact .refl m
  · generalize m.pending.partition _ = parts
    refine Keeps.trans (b := { m with pending := parts.2 }) (.refl m) (Builtin.keeps_foldl (fun m signal => ?_) _ _)
    dsimp only
    split
    · split
      · exact keeps_runAction hrun m _
      · exact keeps_runAction hrun m _
    · exact .refl m

/-! ## Commands of the shell and programs -/

theorem keeps_runFile : Builtin.IsKeeping (runFile run) := by
  refine Builtin.isKeeping_withOptions fun options operands m => ?_
  split
  · exact .refl m
  · dsimp only
    split
    · exact m.keeps_abort _
    · split
      · exact keeps_runText hrun ({ m with isTested := false, command := _ }) _
      · exact m.keeps_abort _

end

section

variable (run) (m : Machine)

theorem keeps_runProgram (fuel : Nat) (path called : List Char) (arguments : List (List Char)) :
    m.Keeps (runProgram run fuel path called arguments m) :=
  .of_lessJobs (lessJobs_runProgram run fuel path called arguments m)

theorem keeps_remember (name path : List Char) : m.Keeps (remember name path m) := by
  unfold remember
  split
  · exact .refl m
  · exact ⟨rfl, rfl, rfl, rfl, rfl, rfl, rfl, rfl, fun _ => id⟩

theorem isKeeping_replaceShell : Builtin.IsKeeping (replaceShell run) := by
  intro arguments m
  unfold replaceShell
  split
  · exact .refl m
  · split
    · have hran := fun path name arguments =>
        keeps_runProgram run { m with inPlace := true } 100 path name arguments
      dsimp only
      split
      · exact (hran _ _ _).trans ⟨rfl, rfl, rfl, rfl, rfl, rfl, rfl, rfl, fun _ => id⟩
      · exact hran _ _ _
    · exact .of_scope (Machine.scope_fail 127 _)

theorem keeps_describe (inFull : Bool) (name : List Char) : m.Keeps (describe run inFull name m) := by
  have hsay : ∀ text : List Char, m.Keeps (m.write 1 text) := fun text => .of_scope (Machine.scope_write 1 text)
  have hunknown : m.Keeps
      ((if inFull then m.write 1 (name ++ ": not found".toList ++ ['\n']) else m).withStatus 127) := by
    split
    · exact hsay _
    · exact .refl m
  unfold describe
  dsimp only
  split
  · exact hsay _
  · split
    · split <;> exact hsay _
    · exact hsay _
    · split
      · exact hsay _
      · split <;> exact hsay _
    · exact hsay _
    · exact hunknown

theorem isKeeping_describing : Builtin.IsKeeping (describing run) := by
  refine Builtin.isKeeping_withOptions fun options names m => ?_
  dsimp only
  split
  · exact keeps_describe run (m.withStatus 0) _ _
  · exact .refl m

theorem isKeeping_describeAll : Builtin.IsKeeping (describeAll run) := fun names m =>
  Builtin.keeps_foldl (fun m name => keeps_describe run m true name) names (m.withStatus 0)

theorem isKeeping_findAhead : Builtin.IsKeeping (findAhead run) := by
  refine Builtin.isKeeping_withOptions fun options names m => ?_
  split
  · exact ⟨rfl, rfl, rfl, rfl, rfl, rfl, rfl, rfl, fun _ => id⟩
  · split
    · exact Builtin.keeps_print _ _ m
    · change (m.withStatus 0).Keeps _
      refine Builtin.keeps_foldl (fun m name => ?_) names _
      split
      · exact keeps_remember m _ _
      · exact m.keeps_fail _ _
      · exact .refl m

theorem keeps_launch (name : List Char) (arguments : List (List Char)) : m.Keeps (launch run name arguments m) := by
  unfold launch
  split
  · exact (keeps_remember m _ _).trans (keeps_runProgram run _ _ _ _ _)
  · split
    · exact keeps_runProgram run m _ _ _ _
    · split
      · exact m.keeps_fail _ _
      · exact m.keeps_fail _ _

theorem keeps_restore (hidden : Hidden) : m.Keeps (hidden.restore m) := by
  obtain ⟨name, value, isExported⟩ | letters := hidden
  · cases value <;> exact ⟨rfl, rfl, rfl, rfl, rfl, rfl, rfl, rfl, fun _ => id⟩
  · exact ⟨rfl, rfl, rfl, rfl, rfl, rfl, rfl, rfl, fun _ => id⟩

theorem keeps_restoreVariables (before : Machine) (names : List String) :
    m.Keeps (restoreVariables before names m) :=
  Builtin.keeps_foldl (fun m _ => keeps_restore m _) names m

end

section

variable (hrun : IsKeepingRunner run)

include hrun

theorem isKeeping_runBuiltin (name : String) : Builtin.IsKeeping (runBuiltin run name) := by
  have hother : Builtin.IsKeeping ((Builtin.all.lookup name).getD (Builtin.nothing 0)) := by
    cases hfound : Builtin.all.lookup name with
    | none => exact fun arguments m => .refl m
    | some b => exact Builtin.isKeeping_of_mem_all (mem_of_lookup hfound)
  unfold runBuiltin
  split
  · exact keeps_runFile hrun
  · exact fun arguments m => keeps_runText hrun m _
  · exact isKeeping_replaceShell run
  · exact isKeeping_describing run
  · exact isKeeping_describeAll run
  · exact isKeeping_findAhead run
  · exact fun arguments m => .of_lessJobs (lessJobs_kill m arguments)
  · exact hother

theorem keeps_carryOut (isSpecial : Bool) (name : String) (arguments : List (List Char)) (m : Machine) :
    m.Keeps (carryOut run isSpecial name arguments m) := by
  have hran := isKeeping_runBuiltin hrun name arguments { m with command := name.toList }
  unfold carryOut
  dsimp only
  split
  · exact hran
  · exact hran

theorem keeps_call (body : Command) (arguments : List (List Char)) (m : Machine) :
    m.Keeps (call run body arguments m) := by
  unfold call
  split
  · exact m.keeps_abort _
  · have hbody := hrun body { m with
      scope.arguments := arguments
      scope.hidden := some []
      scope.loops := 0
      scope.calls := m.scope.calls + 1
      scope.optionIndex := 1
      scope.optionOffset := none }
    have hback : ∀ after : Machine, after.Keeps ((after.scope.hidden.getD []).foldl Hidden.restore after) :=
      fun after => Builtin.keeps_foldl keeps_restore _ after
    have hcalled := hbody.trans (hback _)
    exact ⟨hcalled.name, hcalled.process, hcalled.ancestors, hcalled.isCopy, rfl, rfl, hcalled.interrupted, rfl,
      hcalled.constants⟩

theorem keeps_runChosen (isSpecial : Bool) (c : Chosen) (m : Machine) : m.Keeps (runChosen run isSpecial c m) := by
  unfold runChosen
  dsimp only
  split
  · exact keeps_call hrun _ _ m
  · exact keeps_carryOut hrun _ _ _ m
  · split
    · exact keeps_runProgram run m _ _ _ _
    · exact (keeps_remember m _ _).trans (keeps_runProgram run _ _ _ _ _)
  · exact keeps_launch run m _ _

end

/-! ## Simple commands -/

section

variable (run) (m : Machine)

theorem keeps_expandFirst (words : List Word) : m.Keeps (expandFirst run words m).2.2 := by
  induction words generalizing m with
  | nil => exact .refl m
  | cons word words ih =>
    have hword := (isSteady_keeps run).expandFields word m
    unfold expandFirst
    dsimp only
    split
    · exact hword.trans (ih _)
    · exact hword

theorem keeps_expandArguments (declares : Bool) (words : List Word) :
    m.Keeps (expandArguments run declares words m).2 := by
  induction words generalizing m with
  | nil => exact .refl m
  | cons word words ih =>
    unfold expandArguments
    dsimp only
    split
    · split
      · exact ((isSteady_keeps run).expandSegments false _ m).trans (ih _)
      · exact ((isSteady_keeps run).expandFields word m).trans (ih _)
    · exact .refl m

theorem keeps_assignAll (assignments : List Assignment) : m.Keeps (assignAll run assignments m).2 := by
  induction assignments generalizing m with
  | nil => exact .refl m
  | cons assignment assignments ih =>
    have hvalue := (isSteady_keeps run).expandSegments false (withHomes assignment.2) m
    unfold assignAll
    dsimp only
    split
    · split
      · exact (hvalue.trans (Machine.keeps_assign _ _ _)).trans (ih _)
      · exact hvalue.trans (Machine.keeps_assign _ _ _)
    · exact hvalue

theorem keeps_trace (stream : Option Stream) (assigned : List (String × List Char)) (fields : List (List Char)) :
    m.Keeps (trace run stream assigned fields m) := by
  unfold trace
  split
  · exact .of_scope (Machine.scope_writeTo _ _)
  · exact .refl m

theorem keeps_expandSimple (line : Nat) (words : List Word) (redirections : List Redirection) :
    m.Keeps (expandSimple run line words redirections m).2.2 := by
  have hstart : m.Keeps ({ m with line := line, substituted := 0 }.wait 1) := .of_scope (Machine.scope_wait 1)
  have hwords := fun declares words' =>
    (hstart.trans (keeps_expandFirst run _ words)).trans (keeps_expandArguments run _ declares words')
  unfold expandSimple
  dsimp only
  split
  · exact (hwords _ _).trans ((isSteady_keeps run).targetsOf redirections _)
  · exact hwords _ _

theorem Machine.Keeps.reconnect {m after : Machine} (h : m.Keeps after) (before : Machine) (forGood : Bool) :
    m.Keeps (reconnect before forGood after) := by
  unfold Shell.reconnect
  split
  · exact h
  · exact h.trans ⟨rfl, rfl, rfl, rfl, rfl, rfl, rfl, rfl, fun _ => id⟩

theorem keeps_refuse (fields : List (List Char)) (before : Machine) : m.Keeps (refuse fields before m) := by
  have hback := (Keeps.refl m).reconnect before false
  unfold refuse
  dsimp only
  split
  · exact hback
  · split
    · exact (hback.withStatus 2).checked
    · exact hback

/-! ## Loops and branches -/

theorem keeps_repeatLoop {turn : Nat → Nat → Machine → Round}
    (hturn : ∀ number last (m : Machine), m.Keeps (turn number last m).machine) (fuel number last : Nat) :
    m.Keeps (repeatLoop turn fuel number last m) := by
  induction fuel generalizing number last m with
  | zero => exact .refl m
  | succ fuel ih =>
    unfold repeatLoop
    dsimp only
    split
    · exact (hturn _ _ m).trans (ih _ _ _)
    · split
      · exact hturn _ _ m
      · exact hturn _ _ m

theorem keeps_inLoop {f : Machine → Machine} (hf : ∀ m : Machine, m.Keeps (f m)) : m.Keeps (m.inLoop f) := by
  have hbody := hf { m with scope.loops := m.scope.loops + 1 }
  exact ⟨hbody.name, hbody.process, hbody.ancestors, hbody.isCopy, rfl, hbody.calls, hbody.interrupted,
    hbody.isHiding, hbody.constants⟩

theorem keeps_acceptedBy (text : List Char) (words : List Word) : m.Keeps (acceptedBy run text words m).2 := by
  induction words generalizing m with
  | nil => exact .refl m
  | cons word words ih =>
    have hword : m.Keeps (expandPattern (substitute run) word m).2 := (isSteady_keeps run).expandSegments false _ m
    unfold acceptedBy
    dsimp only
    split
    · exact hword
    · split
      · exact hword
      · exact hword.trans (ih _)

theorem keeps_runBehind (body : Command) : m.Keeps (runBehind run body m) := by
  have hapart : ∀ (f : Machine → Machine) (processes : Nat),
      m.Keeps (runApart run f { m with processes := processes }) :=
    fun f processes => .of_scope (scope_runApart run _ f)
  unfold runBehind
  dsimp only
  split
  · exact (hapart _ _).trans ⟨rfl, rfl, rfl, rfl, rfl, rfl, rfl, rfl, fun _ => id⟩
  · exact hapart _ _

end

section

variable (hrun : IsKeepingRunner run) (m : Machine)

include hrun

theorem keeps_runConnected (assignments : List Assignment) (fields : List (List Char)) (before : Machine) :
    m.Keeps (runConnected run assignments fields before m) := by
  have hset := keeps_assignAll run m assignments
  have hpublished : ∀ (names : List String) (m : Machine), m.Keeps (names.foldl (fun m name => m.publish name) m) :=
    fun names m => Builtin.keeps_foldl (fun m name => m.keeps_publish name) names m
  unfold runConnected
  dsimp only
  split
  · exact hset.reconnect _ _
  · have htraced := hset.trans
      (keeps_trace run _ (before.scope.descriptors.lookup 2) (assignAll run assignments m).1 fields)
    split
    · exact ((htraced.withStatus _).reconnect _ _).checked
    · split
      · exact ((htraced.trans (keeps_runChosen hrun true _ _)).reconnect _ _).checked
      · exact ((((htraced.trans (hpublished _ _)).trans (keeps_runChosen hrun false _ _)).trans
          (keeps_restoreVariables _ before _)).reconnect _ _).checked

theorem keeps_runSimple (line : Nat) (assignments : List Assignment) (words : List Word)
    (redirections : List Redirection) : m.Keeps (runSimple run line assignments words redirections m) := by
  have hexpanded := keeps_expandSimple run m line words redirections
  unfold runSimple
  dsimp only
  split
  · exact hexpanded
  · have hconnected := hexpanded.trans (keeps_connectAll _ run (expandSimple run line words redirections m).2.1)
    split
    next h =>
      rw [h] at hconnected
      exact hconnected.trans (keeps_refuse _ _ _)
    next h =>
      rw [h] at hconnected
      exact hconnected.trans (keeps_runConnected hrun _ _ _ _)

theorem keeps_conditionRound (whileTrue : Bool) (condition body : Command) (last : Nat) :
    m.Keeps (conditionRound run whileTrue condition body last m).machine := by
  have hcondition : m.Keeps (m.tested (run condition)) := hrun condition { m with isTested := true }
  unfold conditionRound
  dsimp only
  split
  · split
    · exact hcondition.trans (hrun body _)
    · exact hcondition
  · exact hcondition
  · exact hcondition

theorem keeps_fieldRound (name : List Char) (body : Command) (fields : Array (List Char)) (number last : Nat) :
    m.Keeps (fieldRound run name body fields number last m).machine := by
  unfold fieldRound
  split
  · exact .refl m
  · dsimp only
    split
    · exact (m.keeps_assign _ _).trans (hrun body _)
    · exact m.keeps_assign _ _

theorem keeps_runBranch (body : Command) : m.Keeps (runBranch run body m) := by
  unfold runBranch
  split
  · exact .refl m
  · exact hrun _ m

theorem keeps_runBranches (text : List Char) (branches : List (List Word × Command)) :
    m.Keeps (runBranches run text branches m) := by
  induction branches generalizing m with
  | nil => exact .refl m
  | cons branch branches ih =>
    have haccepted := keeps_acceptedBy run m text branch.1
    unfold runBranches
    split
    next h =>
      rw [h] at haccepted
      exact haccepted.trans (keeps_runBranch hrun _ _)
    next h =>
      rw [h] at haccepted
      split
      · exact haccepted.trans (ih _)
      · exact haccepted

theorem keeps_tested (body : Command) : m.Keeps (m.tested (run body)) := hrun body { m with isTested := true }

/-! ## Commands with others inside -/

theorem keeps_perform_redirected (line : Nat) (body : Command) (redirections : List Redirection) :
    m.Keeps (perform run (.redirected line body redirections) m) := by
  have hwords := (isSteady_keeps run).targetsOf redirections { m with line := line }
  have hconnected := hwords.trans (keeps_connectAll _ run (targetsOf run redirections { m with line := line }).1)
  unfold perform
  split
  · exact .refl m
  · dsimp only
    split
    · exact hwords
    · split
      next h =>
        rw [h] at hconnected
        exact (hconnected.trans (hrun body _)).trans ⟨rfl, rfl, rfl, rfl, rfl, rfl, rfl, rfl, fun _ => id⟩
      next h =>
        rw [h] at hconnected
        exact hconnected.trans ⟨rfl, rfl, rfl, rfl, rfl, rfl, rfl, rfl, fun _ => id⟩

theorem keeps_perform_choice (condition yes no : Command) :
    m.Keeps (perform run (.choice condition yes no) m) := by
  have hcondition := keeps_tested hrun m condition
  unfold perform
  split
  · exact .refl m
  · dsimp only
    split
    · exact hcondition
    · split
      · exact hcondition.trans (hrun yes _)
      · exact hcondition.trans (keeps_runBranch hrun _ no)

theorem keeps_perform_forEach (line : Nat) (name : List Char) (words : Option (List Word)) (body : Command) :
    m.Keeps (perform run (.forEach line name words body) m) := by
  have hwords : ∀ words : List Word, m.Keeps (expandAll (substitute run) words { m with line := line }).2 :=
    fun words => (isSteady_keeps run).expandAll words { m with line := line }
  have hloop := fun (m : Machine) (fields : Array (List Char)) => keeps_inLoop m fun m =>
    keeps_repeatLoop m (fun number last m => keeps_fieldRound hrun m name body fields number last) roundLimit 0 0
  unfold perform
  split
  · exact .refl m
  · cases words with
    | none =>
      dsimp only
      split
      · exact .refl m
      · exact hloop { m with line := line } _
    | some words =>
      dsimp only
      split
      · exact hwords words
      · exact (hwords words).trans (hloop _ _)

theorem keeps_perform_select (line : Nat) (word : Word) (branches : List (List Word × Command)) :
    m.Keeps (perform run (.select line word branches) m) := by
  have hword : m.Keeps (expandText (substitute run) word { m with line := line }).2 :=
    (isSteady_keeps run).expandText word { m with line := line }
  unfold perform
  split
  · exact .refl m
  · dsimp only
    split
    · exact hword.trans (keeps_runBranches hrun _ _ _)
    · exact hword

theorem isKeepingRunner_perform : IsKeepingRunner (perform run) := by
  intro command m
  by_cases hm : (!m.goesOn || m.isOn 'n') = true
  · unfold perform
    rw [if_pos hm]
    exact .refl m
  cases command with
  | redirected line body redirections => exact keeps_perform_redirected hrun m line body redirections
  | pipe source target => exact .of_lessVariables (lessVariables_perform_pipe run m source target)
  | apart line body redirections => exact .of_scope (scope_perform_apart run m line body redirections)
  | choice condition yes no => exact keeps_perform_choice hrun m condition yes no
  | forEach line name words body => exact keeps_perform_forEach hrun m line name words body
  | select line word branches => exact keeps_perform_select hrun m line word branches
  | nothing =>
    rw [perform, if_neg hm]
    exact .refl m
  | simple line assignments words redirections =>
    rw [perform, if_neg hm]
    exact keeps_runSimple hrun m line assignments words redirections
  | negate body =>
    rw [perform, if_neg hm]
    dsimp only
    split
    · exact (keeps_tested hrun m body).withStatus _
    · exact keeps_tested hrun m body
  | andThen first second =>
    rw [perform, if_neg hm]
    dsimp only
    split
    · exact (keeps_tested hrun m first).trans (hrun second _)
    · exact keeps_tested hrun m first
  | orElse first second =>
    rw [perform, if_neg hm]
    dsimp only
    split
    · exact (keeps_tested hrun m first).trans (hrun second _)
    · exact keeps_tested hrun m first
  | inOrder first second =>
    rw [perform, if_neg hm]
    exact (hrun first m).trans (hrun second _)
  | background body =>
    rw [perform, if_neg hm]
    exact keeps_runBehind run m body
  | loop whileTrue condition body =>
    rw [perform, if_neg hm]
    exact keeps_inLoop m fun m => keeps_repeatLoop m (fun _ last m => keeps_conditionRound hrun m _ _ _ last) _ _ _
  | define line name body =>
    rw [perform, if_neg hm]
    exact ⟨rfl, rfl, rfl, rfl, rfl, rfl, rfl, rfl, fun _ => id⟩

theorem isKeepingRunner_step : IsKeepingRunner (step run) := fun command m =>
  (isKeepingRunner_perform hrun command m).trans (keeps_answerSignals hrun _)

end

/-- However a command is run and left, the shell is the same process in the same loops and calls as before, and the
    variables that were to stay as they are still are. -/
theorem isKeepingRunner_run (fuel : Nat) : IsKeepingRunner (Command.run fuel) := by
  induction fuel with
  | zero => exact fun command m => .of_scope (Machine.scope_receive _ _)
  | succ fuel ih => exact isKeepingRunner_step ih

end CodeBlock.Shell
