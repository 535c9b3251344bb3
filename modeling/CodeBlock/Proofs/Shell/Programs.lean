import CodeBlock.Proofs.Shell.Records.Run

set_option autoImplicit false

/-! # Programs leave the shell that starts them as it was

Whatever program a shell starts, and whatever other programs and shells that program starts, the scope of the
shell comes back with the variables, the functions, the arguments, the descriptors, the traps and the directory
that it had. Only its jobs may be others afterwards, because there is a program that sends signals to them.
-/

namespace CodeBlock.Shell

/-- Whether a program leaves the scope of the shell that starts it as it is. -/
def IsApart (program : Builtin) : Prop :=
  ∀ (arguments : List (List Char)) (m : Machine), (program arguments m).scope = m.scope

theorem scope_foldl {α : Type} {next : Machine → α → Machine} (hnext : ∀ m x, (next m x).scope = m.scope)
    (xs : List α) (m : Machine) : (xs.foldl next m).scope = m.scope := by
  induction xs generalizing m with
  | nil => rfl
  | cons x xs ih => rw [List.foldl_cons, ih, hnext]

/-! ## Tools -/

@[simp] theorem scope_runTool (tool : ToolCall → ToolAnswer) (arguments : List (List Char)) (m : Machine) :
    (runTool tool arguments m).scope = m.scope := by
  unfold runTool
  dsimp only
  split_ifs <;> simp

@[simp] theorem scope_missingOperand (name message : String) (m : Machine) :
    (missingOperand name message m).scope = m.scope := scope_runTool _ _ _

@[simp] theorem scope_complainAs (name : String) (message : List Char) (m : Machine) :
    (complainAs name message m).scope = m.scope := Machine.scope_warn _

theorem isApart_withSwitches {name : String} {table : SwitchTable} {f : Switches → Machine → Machine}
    (hf : ∀ given m, (f given m).scope = m.scope) : IsApart (withSwitches name table f) := by
  intro arguments m
  unfold withSwitches
  split
  · exact hf _ m
  · exact scope_runTool _ _ m

/-! ## Programs that keep files -/

theorem isApart_copyInput : IsApart copyInput := by
  refine isApart_withSwitches fun given m => (scope_foldl (fun m path => ?_) _ _).trans (by simp)
  split_ifs
  · rfl
  · simp
  · simp
  · split <;> simp
  · split <;> simp

theorem isApart_makeFiles : IsApart makeFiles := by
  refine isApart_withSwitches fun given m => ?_
  split
  · simp
  · refine scope_foldl (fun m path => ?_) _ _
    split
    · split_ifs <;> rfl
    · rfl
    · simp

theorem isApart_removeFiles : IsApart removeFiles := by
  refine isApart_withSwitches fun given m => ?_
  dsimp only
  split
  · simp
  · refine scope_foldl (fun m path => ?_) _ _
    split
    · rfl
    · split_ifs <;> simp
    · split_ifs <;> simp
    · split_ifs <;> simp

theorem isApart_makeDirectories : IsApart makeDirectories := by
  refine isApart_withSwitches fun given m => ?_
  have htold : ∀ (path : List Char) (m : Machine), (if given.has 'v' then
      m.write 1 ("mkdir: created directory ".toList ++ quoted path ++ ['\n']) else m).scope = m.scope := by
    intro path m
    split_ifs <;> simp
  dsimp only
  split
  · simp
  · refine scope_foldl (fun m path => ?_) _ _
    split
    · simp
    · split_ifs
      · rfl
      · simp
    · exact htold path _
    · split
      · split
        · rfl
        · exact htold path _
        · simp
      · simp

theorem isApart_removeDirectories : IsApart removeDirectories := by
  refine isApart_withSwitches fun given m => ?_
  dsimp only
  split
  · simp
  · refine scope_foldl (fun m path => ?_) _ _
    split
    · split_ifs <;> simp
    · simp
    · simp
    · simp

@[simp] theorem scope_transfer (name : String) (moves deep : Bool) (source target : List Char) (m : Machine) :
    (transfer name moves deep source target m).scope = m.scope := by
  have hsame : ∀ (isSame : Bool) (text : List Char) (failed : Machine),
      (if isSame then some (complainAs name text m) else none) = some failed → failed.scope = m.scope := by
    intro isSame text failed h
    split_ifs at h
    rw [← Option.some.inj h, scope_complainAs]
  unfold transfer
  dsimp only
  split
  · split
    next h => exact hsame _ _ _ h
    · split
      · exact scope_complainAs _ _ _
      · rfl
    · exact scope_complainAs _ _ _
  · split
    · exact scope_complainAs _ _ _
    · split
      next h => exact hsame _ _ _ h
      · split
        · exact scope_complainAs _ _ _
        · split
          · exact scope_complainAs _ _ _
          · rfl
      · exact scope_complainAs _ _ _
  · exact scope_complainAs _ _ _
  · exact scope_complainAs _ _ _

@[simp] theorem scope_transferOne (name : String) (moves : Bool) (given : Switches) (target : List Char)
    (m : Machine) (source : List Char) : (transferOne name moves given target m source).scope = m.scope := by
  unfold transferOne
  dsimp only
  split_ifs <;> simp

theorem scope_transferInto (name : String) (moves : Bool) (given : Switches) (target : List Char) (m : Machine)
    (source : List Char) : (transferInto name moves given target m source).scope = m.scope :=
  scope_transferOne _ _ _ _ _ _

theorem isApart_transferring (name : String) (moves : Bool) : IsApart (transferring name moves) := by
  refine isApart_withSwitches fun given m => ?_
  have hone := fun target : List Char => scope_foldl (scope_transferOne name moves given target)
  have hinto := fun target : List Char => scope_foldl (scope_transferInto name moves given target)
  dsimp only
  split
  · exact scope_missingOperand _ _ _
  · exact hinto _ _ _
  · exact scope_runTool _ _ _
  · split
    · split
      · exact hone _ _ _
      · exact hinto _ _ _
    · exact scope_transferOne _ _ _ _ _ _
    · exact scope_complainAs _ _ _
    · exact scope_complainAs _ _ _
    · exact scope_complainAs _ _ _

theorem isApart_listFiles : IsApart listFiles := by
  refine isApart_withSwitches fun given m => ?_
  dsimp only
  rw [Machine.scope_withStatus, Machine.scope_write]
  exact scope_foldl (fun m text => Machine.scope_warn text) _ _

theorem isApart_writingTool (name : String) (table : SwitchTable) (tool : ToolCall → ToolAnswer)
    (target : Switches → Option (List Char)) : IsApart (writingTool name table tool target) := by
  intro arguments m
  unfold writingTool
  split
  · simp
  · split
    · simp
    · dsimp only
      split
      · split_ifs <;> simp
      · split_ifs <;> simp

theorem isApart_changeModes : IsApart changeModes := by
  intro arguments m
  unfold changeModes
  dsimp only
  split
  · simp
  · split
    · simp
    · simp
    · split
      · simp
      · refine scope_foldl (fun m path => ?_) _ _
        split
        · rfl
        · rfl
        · simp
        · simp

theorem isApart_filePrograms {name : String} {program : Builtin} (h : (name, program) ∈ filePrograms) :
    IsApart program := by
  simp only [filePrograms, List.mem_cons, Prod.mk.injEq, List.not_mem_nil, or_false] at h
  obtain ⟨-, rfl⟩ | ⟨-, rfl⟩ | ⟨-, rfl⟩ | ⟨-, rfl⟩ | ⟨-, rfl⟩ | ⟨-, rfl⟩ | ⟨-, rfl⟩ | ⟨-, rfl⟩ | ⟨-, rfl⟩ |
    ⟨-, rfl⟩ | ⟨-, rfl⟩ := h
  · exact isApart_copyInput
  · exact isApart_makeFiles
  · exact isApart_removeFiles
  · exact isApart_makeDirectories
  · exact isApart_removeDirectories
  · exact isApart_transferring _ _
  · exact isApart_transferring _ _
  · exact isApart_listFiles
  · exact isApart_changeModes
  · exact isApart_writingTool _ _ _ _
  · exact isApart_writingTool _ _ _ _

/-! ## The line editor -/

namespace Editor

theorem scope_of_writeWhole {m after : Machine} {name text : List Char} (h : writeWhole m name text = .ok after) :
    after.scope = m.scope := by
  unfold writeWhole at h
  cases hplace : m.placeFor name with
  | error e => rw [hplace] at h; cases h
  | ok place =>
    rw [hplace] at h
    rw [← Except.ok.inj h]

theorem scope_replaceText (suffix : List Char) (m : Machine) (replaced : (List Char × List Char) × List Char) :
    (replaceText suffix m replaced).scope = m.scope := by
  have hwritten : ∀ (m : Machine) (name text : List Char),
      (((writeWhole m name text).toOption).getD m).scope = m.scope := by
    intro m name text
    cases hwritten : writeWhole m name text with
    | error e => rfl
    | ok after => exact scope_of_writeWhole hwritten
  unfold replaceText
  dsimp only
  rw [hwritten]
  split
  · rfl
  · exact hwritten _ _ _

theorem scope_of_writeOutputs {outputs : List (String × Output)} {m after : Machine}
    (h : writeOutputs outputs m = .ok after) : after.scope = m.scope := by
  induction outputs generalizing m with
  | nil => rw [← Except.ok.inj h]
  | cons output outputs ih =>
    rw [writeOutputs] at h
    split at h
    next hwritten => exact (ih h).trans (scope_of_writeWhole hwritten)
    · cases h

theorem scope_finish (given : Switches) (texts : List (List Char × List Char)) (complaints : List (List Char × Nat))
    (outputs : List (List Char)) (status : Option Nat) (errors : List Char) (m : Machine) :
    (finish given texts complaints outputs status errors m).scope = m.scope := by
  have hwritten : (if given.has 'i' then (texts.zip outputs).foldl (replaceText ((given.value? 'i').getD [])) m
      else m.write 1 outputs.flatten).scope = m.scope := by
    split
    · exact scope_foldl (scope_replaceText _) _ _
    · exact Machine.scope_write _ _
  cases status <;> simp [finish, hwritten]

theorem scope_edit (given : Switches) (script : Script) (names : List (List Char)) (m : Machine) :
    (edit given script names m).scope = m.scope := by
  have hleft : (if names.isEmpty || names.contains ['-'] then m.leave [] else m).scope = m.scope := by
    split_ifs <;> simp
  unfold edit
  dsimp only
  split
  · rw [Machine.scope_withStatus, Machine.scope_warn, hleft]
  next h => rw [scope_finish, scope_of_writeOutputs h, hleft]

theorem scope_runParts (given : Switches) (sources : List (Source × List Char)) (names : List (List Char))
    (m : Machine) : (runParts given sources names m).scope = m.scope := by
  unfold runParts
  split
  · exact (Machine.scope_withStatus _).trans (Machine.scope_write _ _)
  · split
    · exact (Machine.scope_withStatus _).trans (Machine.scope_warn _)
    · split
      · exact (Machine.scope_withStatus _).trans (Machine.scope_warn _)
      · split
        · exact (Machine.scope_withStatus _).trans (Machine.scope_warn _)
        · exact scope_edit _ _ _ m

theorem isApart_run : IsApart run := by
  intro arguments m
  unfold run
  split
  · exact (Machine.scope_withStatus _).trans ((Machine.scope_write _ _).trans (Machine.scope_warn _))
  · split
    · exact (Machine.scope_withStatus _).trans (Machine.scope_warn _)
    · exact scope_runParts _ _ _ m
    · exact scope_runParts _ _ _ m

end Editor

/-! ## Programs that start programs -/

@[simp] theorem Launcher.scope_start (l : Launcher) (name : String) (path : List Char)
    (arguments : List (List Char)) (m inner : Machine) : (l.start name path arguments m inner).scope = m.scope := by
  unfold start
  split
  · exact Machine.scope_rejoin
  · dsimp only
    rw [Machine.scope_withStatus, Machine.scope_warn]

theorem isApart_showVariables : IsApart showVariables := by
  intro arguments m
  unfold showVariables
  dsimp only
  split
  · simp
  · refine scope_foldl (fun m name => ?_) _ _
    split <;> simp

variable (l : Launcher)

theorem isApart_withVariables : IsApart (withVariables l) := by
  intro arguments m
  unfold withVariables
  dsimp only
  split
  · simp
  · split
    · simp
    · simp

theorem isApart_forLimitedTime : IsApart (forLimitedTime l) := by
  intro arguments m
  unfold forLimitedTime
  dsimp only
  split
  · simp
  · split
    · split
      · simp
      · split_ifs <;> simp
    · simp

theorem scope_runRows (shows : Bool) (path : List Char) (rows : List (List (List Char))) (m : Machine) :
    (runRows l shows path rows m).scope = m.scope := by
  induction rows generalizing m with
  | nil => rfl
  | cons row rows ih =>
    unfold runRows
    dsimp only
    split_ifs <;> simp [ih]

theorem isApart_withReadArguments : IsApart (withReadArguments l) := by
  intro arguments m
  unfold withReadArguments
  cases readingSwitches.read true arguments with
  | error fault => exact scope_runTool _ _ m
  | ok given =>
    have hleft : (if given.has 'a' then m else m.leave []).scope = m.scope := by
      split_ifs <;> simp
    dsimp only
    split
    · rw [Machine.scope_withStatus, Machine.scope_warn, Machine.scope_withStatus, hleft]
    · split
      · rw [Machine.scope_withStatus, hleft]
      · rw [scope_runRows, Machine.scope_withStatus, hleft]
    · rw [scope_runRows, Machine.scope_withStatus, hleft]

theorem isApart_plainStarter (name letters : String) : IsApart (plainStarter name letters l) := by
  intro arguments m
  unfold plainStarter
  split <;> simp

theorem isApart_starters {name : String} {starter : Launcher → Builtin} (h : (name, starter) ∈ starters) :
    IsApart (starter l) := by
  simp only [starters, List.mem_cons, Prod.mk.injEq, List.not_mem_nil, or_false] at h
  obtain ⟨-, rfl⟩ | ⟨-, rfl⟩ | ⟨-, rfl⟩ | ⟨-, rfl⟩ | ⟨-, rfl⟩ | ⟨-, rfl⟩ | ⟨-, rfl⟩ := h
  · exact isApart_withVariables l
  · exact isApart_forLimitedTime l
  · exact isApart_withReadArguments l
  · exact isApart_plainStarter l _ _
  · exact isApart_plainStarter l _ _
  · exact isApart_plainStarter l _ _
  · exact isApart_plainStarter l _ _

/-! ## Arguments -/

theorem withNumber_induction {motive : Machine → Prop} {argument : List Char} {m : Machine}
    {f : Nat → Machine → Machine} (habort : ∀ s, motive (m.abort s)) (hf : ∀ n, motive (f n m)) :
    motive (Builtin.withNumber argument m f) := by
  unfold Builtin.withNumber
  split
  · exact hf _
  · exact habort _

theorem withOptions_induction {motive : Machine → Prop} {known : List (Char × Bool)}
    {f : List (Char × List Char) → List (List Char) → Machine → Machine} {arguments : List (List Char)}
    {m : Machine}
    (habort : ∀ s, motive (m.abort s)) (hf : ∀ options operands, motive (f options operands m)) :
    motive (Builtin.withOptions known f arguments m) := by
  unfold Builtin.withOptions
  split
  · exact hf _ _
  · exact habort _

/-! ## Signals -/

/-- A scope less what is known of the commands that run in the background. -/
def Scope.lessJobs (scope : Scope) : Scope := { scope with jobs := [] }

section

variable (run : Runner) (m : Machine)

theorem lessJobs_signalJob (signal : Signal) (job : Job) :
    (signalJob signal job m).scope.lessJobs = m.scope.lessJobs := by
  unfold signalJob
  split_ifs <;> rfl

theorem lessJobs_sendSignal (signal : Option Signal) (names : List (List Char)) :
    (sendSignal signal names m).scope.lessJobs = m.scope.lessJobs := by
  induction names generalizing m with
  | nil => rfl
  | cons name names ih =>
    have hjob : ∀ (job : Job), (signal.elim m (signalJob · job m)).scope.lessJobs = m.scope.lessJobs := by
      intro job
      cases signal with
      | none => rfl
      | some signal => exact lessJobs_signalJob m signal job
    have hself : ∀ process : Nat, (signal.elim m (m.receive process ·)).scope.lessJobs = m.scope.lessJobs := by
      intro process
      cases signal with
      | none => rfl
      | some signal => exact congrArg Scope.lessJobs (Machine.scope_receive process signal)
    unfold sendSignal
    split
    · rfl
    · split
      · split
        · rw [ih, hjob]
        · exact congrArg Scope.lessJobs (Machine.scope_abort _)
      · refine withNumber_induction (motive := fun after => after.scope.lessJobs = m.scope.lessJobs)
          (fun s => congrArg Scope.lessJobs (Machine.scope_abort s)) fun process => ?_
        split
        · rw [ih, hself]
        · split
          · rw [ih, hjob]
          · rw [ih]
            exact congrArg Scope.lessJobs (Machine.scope_fail _ _)

theorem scope_print (name : String) (text : List Char) : (Builtin.print name text m).scope = m.scope := by
  unfold Builtin.print
  split <;> simp

theorem scope_showSignal (argument : List Char) : (showSignal argument m).scope = m.scope := by
  refine withNumber_induction (motive := fun after => after.scope = m.scope) (fun s => Machine.scope_abort s)
    fun n => ?_
  split
  · exact scope_print _ _ _
  · exact Machine.scope_abort _

theorem lessJobs_kill (arguments : List (List Char)) : (kill arguments m).scope.lessJobs = m.scope.lessJobs := by
  have habort : ∀ text : List Char, (m.abort text).scope.lessJobs = m.scope.lessJobs := fun text =>
    congrArg Scope.lessJobs (Machine.scope_abort text)
  have hsent : ∀ (signal : Option Signal) (processes : List (List Char)),
      (if processes.isEmpty then m.abort killUsage.toList
        else sendSignal signal processes (m.withStatus 0)).scope.lessJobs = m.scope.lessJobs := by
    intro signal processes
    split_ifs
    · exact habort _
    · exact lessJobs_sendSignal _ _ _
  unfold kill
  dsimp only
  split
  · split
    · exact hsent _ _
    · split
      · exact hsent _ _
      · refine withOptions_induction (motive := fun after => after.scope.lessJobs = m.scope.lessJobs) habort
          fun options operands => ?_
        split
        · exact congrArg Scope.lessJobs (scope_print _ _ _)
        · exact congrArg Scope.lessJobs (scope_showSignal _ _)
        · split
          · exact hsent _ _
          · split
            · exact hsent _ _
            · exact habort _
        · exact hsent _ _
  · exact hsent _ _

/-! ## Programs of their own -/

theorem isApart_sleep : IsApart sleep := by
  intro arguments m
  unfold sleep
  dsimp only
  split
  · simp
  · split
    · simp
    · split_ifs <;> simp

theorem isApart_affirm : IsApart affirm := by
  intro arguments m
  unfold affirm
  dsimp only
  split
  · split
    · rfl
    · exact Machine.scope_write _ _
  · rfl

theorem scope_complain (text : List Char) : (m.complain text).scope = m.scope := Machine.scope_warn _

theorem isApart_printf : IsApart Builtin.printf := by
  intro arguments m
  refine withOptions_induction (motive := fun after => after.scope = m.scope) (fun s => Machine.scope_abort s)
    fun _ operands => ?_
  split
  · exact Machine.scope_abort _
  · dsimp only
    split
    · rw [Machine.scope_withStatus, scope_print]
      exact scope_foldl (fun m text => scope_complain m text) _ m
    · split
      · rw [scope_print]
        exact scope_foldl (fun m text => scope_complain m text) _ m
      · rw [Machine.scope_withStatus, scope_print]
        exact scope_foldl (fun m text => scope_complain m text) _ m

theorem isApart_test : IsApart Builtin.test := by
  intro arguments m
  unfold Builtin.test
  split
  · rfl
  · exact Machine.scope_abort _

theorem isApart_bracket : IsApart Builtin.bracket := by
  intro arguments m
  unfold Builtin.bracket
  split
  · exact isApart_test _ m
  · exact Machine.scope_abort _

theorem mem_of_lookup {α : Type} {name : String} {program : α} {programs : List (String × α)}
    (h : programs.lookup name = some program) : (name, program) ∈ programs := by
  obtain ⟨before, others, rfl, -⟩ := List.lookup_eq_some_iff.1 h
  simp

/-- Only the program that sends signals leaves anything else in the scope than there was, and that are jobs. -/
theorem isApart_or_kill_of_mem_programs {name : String} {program : Builtin} (h : (name, program) ∈ programs run) :
    IsApart program ∨ program = kill := by
  have hstatus : ∀ status : Nat, IsApart fun _ m => m.withStatus status := fun _ _ _ => rfl
  have hecho : IsApart fun arguments m => Builtin.print "echo" (plainlyEchoed arguments) m := fun _ m =>
    scope_print m _ _
  have hplace : IsApart fun _ m =>
      (m.write 1 (Machine.inside (directoryPath m.scope.working) ++ ['\n'])).withStatus 0 := fun _ m =>
    Machine.scope_write _ _
  simp only [programs, List.mem_append, List.mem_cons, Prod.mk.injEq, List.not_mem_nil, or_false] at h
  obtain (⟨-, rfl⟩ | ⟨-, rfl⟩ | ⟨-, rfl⟩ | ⟨-, rfl⟩ | ⟨-, rfl⟩ | ⟨-, rfl⟩ | ⟨-, rfl⟩ | ⟨-, rfl⟩ | ⟨-, rfl⟩ |
    ⟨-, rfl⟩ | ⟨-, rfl⟩ | ⟨-, rfl⟩ | ⟨-, rfl⟩ | ⟨-, rfl⟩) | hfile := h
  · exact .inl isApart_sleep
  · exact .inl isApart_affirm
  · exact .inl isApart_showVariables
  · exact .inl Editor.isApart_run
  · exact .inl (Records.scope_program run)
  · exact .inl (Records.scope_program run)
  · exact .inl (hstatus 0)
  · exact .inl (hstatus 1)
  · exact .inl isApart_printf
  · exact .inl isApart_test
  · exact .inl isApart_bracket
  · exact .inl hecho
  · exact .inl hplace
  · exact .inr rfl
  · exact .inl (isApart_filePrograms hfile)

theorem isApart_findPrograms : IsApart (findPrograms run) := by
  intro arguments m
  unfold findPrograms
  simp

theorem isApart_runShellProgram (name : List Char) : IsApart (runShellProgram run name) := by
  intro arguments m
  unfold runShellProgram
  dsimp only
  split
  · simp
  · split
    · simp
    · simp
    · simp
    · split
      · simp
      · split
        · rfl
        · split
          · simp
          · simp

end

/-- Programs leave the scope of the shell that starts them as it was, but for its jobs. -/
theorem lessJobs_runProgram (run : Runner) (fuel : Nat) (path called : List Char) (arguments : List (List Char))
    (m : Machine) : (runProgram run fuel path called arguments m).scope.lessJobs = m.scope.lessJobs := by
  induction fuel generalizing path called arguments m with
  | zero => rfl
  | succ fuel ih =>
    have hapart : ∀ after : Machine, after.scope = (m.wait 1000).scope → after.scope.lessJobs = m.scope.lessJobs :=
      fun after h => congrArg Scope.lessJobs (h.trans (Machine.scope_wait 1000))
    unfold runProgram
    dsimp only
    split
    · exact hapart _ (scope_runTool _ _ _)
    next hprogram =>
      obtain hprogram | rfl := isApart_or_kill_of_mem_programs run (mem_of_lookup hprogram)
      · exact hapart _ (hprogram _ _)
      · rw [lessJobs_kill, Machine.scope_wait]
    next hstarter => exact hapart _ (isApart_starters _ (mem_of_lookup hstarter) _ _)
    · split
      · exact hapart _ (isApart_runShellProgram run _ _ _)
      · split
        · exact hapart _ (isApart_findPrograms run _ _)
        · split
          · split
            · split
              · exact hapart _ (scope_runShell run _ _ _ _ _)
              · split
                · rw [ih, Machine.scope_wait]
                · exact hapart _ (Machine.scope_fail _ _)
            · split
              · exact hapart _ (Machine.scope_fail _ _)
              · exact hapart _ (Machine.scope_fail _ _)
          · exact hapart _ (Machine.scope_fail _ _)

end CodeBlock.Shell
