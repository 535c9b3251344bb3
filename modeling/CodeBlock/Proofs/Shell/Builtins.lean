import CodeBlock.Proofs.Shell.Programs

set_option autoImplicit false

/-! # What no command of the shell changes

The commands of the shell set variables, options, arguments, traps and the directory. None of them changes which
process the shell is or how deep it stands in loops and calls, and none takes the mark from a variable that is
to stay as it is. -/

namespace CodeBlock.Shell

/-- What is the same after any command: which process it is, and where in loops, calls and traps it stands.
    Variables that stay as they are go on doing so. -/
structure Scope.Keeps (scope after : Scope) : Prop where
  name : after.name = scope.name
  process : after.process = scope.process
  ancestors : after.ancestors = scope.ancestors
  isCopy : after.isCopy = scope.isCopy
  loops : after.loops = scope.loops
  calls : after.calls = scope.calls
  interrupted : after.interrupted = scope.interrupted
  isHiding : after.hidden.isSome = scope.hidden.isSome
  constants : scope.constants ⊆ after.constants

namespace Scope.Keeps

variable {a b c : Scope}

theorem refl (scope : Scope) : scope.Keeps scope := ⟨rfl, rfl, rfl, rfl, rfl, rfl, rfl, rfl, fun _ => id⟩

theorem trans (hab : a.Keeps b) (hbc : b.Keeps c) : a.Keeps c :=
  ⟨hbc.name.trans hab.name, hbc.process.trans hab.process, hbc.ancestors.trans hab.ancestors,
    hbc.isCopy.trans hab.isCopy, hbc.loops.trans hab.loops, hbc.calls.trans hab.calls,
    hbc.interrupted.trans hab.interrupted, hbc.isHiding.trans hab.isHiding,
    List.Subset.trans hab.constants hbc.constants⟩

theorem of_eq (h : b = a) : a.Keeps b := h ▸ .refl a

theorem of_lessVariables (h : b.lessVariables = a.lessVariables) : a.Keeps b :=
  have hless := of_eq h
  ⟨hless.name, hless.process, hless.ancestors, hless.isCopy, hless.loops, hless.calls, hless.interrupted,
    hless.isHiding, hless.constants⟩

theorem of_lessJobs (h : b.lessJobs = a.lessJobs) : a.Keeps b :=
  have hless := of_eq h
  ⟨hless.name, hless.process, hless.ancestors, hless.isCopy, hless.loops, hless.calls, hless.interrupted,
    hless.isHiding, hless.constants⟩

end Scope.Keeps

namespace Machine

/-- Whether a shell is, after something was run, where it was before. -/
def Keeps (m after : Machine) : Prop := m.scope.Keeps after.scope

namespace Keeps

variable {m a b c : Machine}

theorem refl (m : Machine) : m.Keeps m := Scope.Keeps.refl m.scope

theorem trans (hab : a.Keeps b) (hbc : b.Keeps c) : a.Keeps c := Scope.Keeps.trans hab hbc

theorem of_scope (h : b.scope = a.scope) : a.Keeps b := Scope.Keeps.of_eq h

end Keeps

variable (m : Machine)

theorem keeps_abort (text : List Char) : m.Keeps (m.abort text) := .of_scope (scope_abort text)

theorem keeps_fail (status : Nat) (text : List Char) : m.Keeps (m.fail status text) :=
  .of_scope (scope_fail status text)

theorem keeps_assign (name : String) (value : List Char) : m.Keeps (m.assign name value) :=
  .of_lessVariables (lessVariables_assign m name value)

theorem keeps_publish (name : String) : m.Keeps (m.publish name) := by
  unfold publish
  split_ifs <;> exact ⟨rfl, rfl, rfl, rfl, rfl, rfl, rfl, rfl, fun _ => id⟩

theorem keeps_unset (name : String) : m.Keeps (m.unset name) :=
  ⟨rfl, rfl, rfl, rfl, rfl, rfl, rfl, rfl, fun _ => id⟩

theorem keeps_turn (option : Char) (on : Bool) : m.Keeps (m.turn option on) :=
  ⟨rfl, rfl, rfl, rfl, rfl, rfl, rfl, rfl, fun _ => id⟩

theorem keeps_ended (status : Nat) : m.Keeps (if m.goesOn then m.withStatus status else m) := by
  split
  · exact .refl m
  · exact .refl m

end Machine

namespace Builtin

open Machine (Keeps)

/-- Whether a command leaves the shell where it was. -/
def IsKeeping (b : Builtin) : Prop := ∀ (arguments : List (List Char)) (m : Machine), m.Keeps (b arguments m)

theorem keeps_foldl {α : Type} {next : Machine → α → Machine} (hnext : ∀ (m : Machine) (x : α), m.Keeps (next m x))
    (xs : List α) (m : Machine) : m.Keeps (xs.foldl next m) := by
  induction xs generalizing m with
  | nil => exact .refl m
  | cons x xs ih => exact (hnext m x).trans (ih _)

theorem isKeeping_withOptions {known : List (Char × Bool)}
    {f : List (Char × List Char) → List (List Char) → Machine → Machine}
    (hf : ∀ options operands (m : Machine), m.Keeps (f options operands m)) : IsKeeping (withOptions known f) :=
  fun _ m => withOptions_induction (motive := fun after => m.Keeps after) m.keeps_abort
    fun options operands => hf options operands m

theorem keeps_withNumber {argument : List Char} {m : Machine} {f : Nat → Machine → Machine}
    (hf : ∀ n, m.Keeps (f n m)) : m.Keeps (withNumber argument m f) :=
  withNumber_induction (motive := fun after => m.Keeps after) m.keeps_abort hf

theorem isKeeping_of_isApart {b : Builtin} (h : IsApart b) : IsKeeping b := fun arguments m =>
  .of_scope (h arguments m)

theorem keeps_print (name : String) (text : List Char) (m : Machine) : m.Keeps (print name text m) :=
  .of_scope (scope_print m name text)

/-! ## Leaving -/

theorem isKeeping_exit : IsKeeping exit
  | [], m => .refl m
  | _ :: _, m => keeps_withNumber fun _ => .refl m

theorem isKeeping_leaveCall : IsKeeping leaveCall
  | [], m => .refl m
  | _ :: _, m => keeps_withNumber fun _ => .refl m

theorem isKeeping_withLoops (flow : Nat → Flow) : IsKeeping (withLoops flow) := by
  intro arguments m
  refine keeps_withNumber fun n => ?_
  split
  · exact m.keeps_abort _
  · split
    · exact .refl m
    · exact .refl m

theorem isKeeping_shift : IsKeeping shift := by
  intro arguments m
  refine keeps_withNumber fun n => ?_
  split
  · exact m.keeps_abort _
  · exact ⟨rfl, rfl, rfl, rfl, rfl, rfl, rfl, rfl, fun _ => id⟩

/-! ## Variables -/

theorem keeps_forEach {f : List Char → Machine → Machine} (hf : ∀ argument (m : Machine), m.Keeps (f argument m))
    (arguments : List (List Char)) (m : Machine) : m.Keeps (forEach f arguments m) := by
  have hgoing : ∀ (m : Machine) (argument : List Char), m.Keeps (if m.goesOn then f argument m else m) := by
    intro m argument
    split
    · exact hf argument m
    · exact .refl m
  have hall := keeps_foldl hgoing arguments m
  exact hall.trans (Machine.keeps_ended _ 0)

theorem keeps_checkName (name : String) (m : Machine) : m.Keeps (checkName name m) := by
  unfold checkName
  split
  · exact .refl m
  · exact m.keeps_abort _

theorem isKeeping_mark {word : String} {marked : Machine → List String} {f : String → Machine → Machine}
    (hf : ∀ name (m : Machine), m.Keeps (f name m)) : IsKeeping (mark word marked f) := by
  refine isKeeping_withOptions fun options names m => ?_
  split
  · refine keeps_forEach (fun argument m => ?_) names m
    dsimp only
    split
    · split
      · exact (m.keeps_assign _ _).trans (hf _ _)
      · exact m.keeps_assign _ _
    · split
      · exact (keeps_checkName _ m).trans (hf _ _)
      · exact keeps_checkName _ m
  · exact keeps_print _ _ m

theorem isKeeping_publish : IsKeeping publish := isKeeping_mark fun name m => m.keeps_publish name

/-- A variable that stays as it is from now on is one more; the others stay as they are too. -/
theorem isKeeping_keep : IsKeeping keep := isKeeping_mark fun _ _ =>
  ⟨rfl, rfl, rfl, rfl, rfl, rfl, rfl, rfl, fun _ => List.mem_cons_of_mem _⟩

theorem isKeeping_hide : IsKeeping hide := by
  intro arguments m
  have hremember : ∀ (h : Hidden) (m : Machine), m.Keeps { m with scope.hidden := m.scope.hidden.map (h :: ·) } :=
    fun h m => ⟨rfl, rfl, rfl, rfl, rfl, rfl, rfl, Option.isSome_map, fun _ => id⟩
  unfold hide
  split
  · exact m.keeps_abort _
  · refine keeps_forEach (fun argument m => ?_) arguments m
    dsimp only
    split
    · exact hremember _ m
    · split
      · split
        · exact (keeps_checkName _ m).trans ((hremember _ _).trans (Machine.keeps_assign _ _ _))
        · exact (keeps_checkName _ m).trans (hremember _ _)
      · exact keeps_checkName _ m

theorem isKeeping_unset : IsKeeping unset := by
  refine isKeeping_withOptions fun options names m => ?_
  split
  · exact ⟨rfl, rfl, rfl, rfl, rfl, rfl, rfl, rfl, fun _ => id⟩
  · refine keeps_forEach (fun name m => ?_) names m
    dsimp only
    split
    · exact m.keeps_abort _
    · split
      · exact (keeps_checkName _ m).trans (Machine.keeps_unset _ _)
      · exact keeps_checkName _ m

/-! ## Options and arguments -/

theorem keeps_turnLetter (letter : Char) (on : Bool) (m : Machine) : m.Keeps (turnLetter letter on m) := by
  unfold turnLetter
  split
  · exact m.keeps_abort _
  · split
    · exact .of_scope (scope_complain m _)
    · exact m.keeps_turn letter on

theorem keeps_turnName (name : List Char) (on : Bool) (m : Machine) : m.Keeps (turnName name on m) := by
  unfold turnName
  split
  · exact keeps_turnLetter _ on m
  · exact .refl m
  · exact m.keeps_abort _

theorem keeps_turnLetters (on : Bool) (letters : List Char) (arguments : List (List Char)) (m : Machine) :
    m.Keeps (turnLetters on letters arguments m).2 := by
  fun_induction turnLetters with
  | case1 => exact .refl _
  | case2 letters m ih => exact (Keeps.of_scope (Machine.scope_write 1 _)).trans ih
  | case3 letters name arguments m ih => exact (keeps_turnName name on m).trans ih
  | case4 letter letters arguments m _ _ ih => exact (keeps_turnLetter letter on m).trans ih

theorem keeps_setOptions (fuel : Nat) (arguments : List (List Char)) (m : Machine) :
    m.Keeps (setOptions fuel arguments m).2 := by
  induction fuel generalizing arguments m with
  | zero => exact .refl m
  | succ fuel ih =>
    unfold setOptions
    split
    · exact .refl m
    · split
      · exact (m.keeps_turn 'x' false).trans (Machine.keeps_turn _ 'v' false)
      · exact .refl m
      · exact (keeps_turnLetters true _ _ m).trans (ih _ _)
      · exact (keeps_turnLetters false _ _ m).trans (ih _ _)
      · exact .refl m
      · exact .refl m

theorem isKeeping_set : IsKeeping set := by
  intro arguments m
  have hset := keeps_setOptions (arguments.length + 1) arguments m
  unfold set
  split
  · exact keeps_print _ _ m
  · dsimp only
    split
    · split
      · exact hset.trans ⟨rfl, rfl, rfl, rfl, rfl, rfl, rfl, rfl, fun _ => id⟩
      · exact hset
    · exact hset

theorem keeps_keep (option : FoundOption) (isQuiet : Bool) (m : Machine) : m.Keeps (option.keep isQuiet m).1 := by
  have hwarned : ∀ text : List Char, m.Keeps ((m.warn text).unset "OPTARG") := fun text =>
    (Keeps.of_scope (Machine.scope_warn text)).trans (Machine.keeps_unset _ _)
  unfold FoundOption.keep
  split
  · exact .refl m
  · split
    · exact m.keeps_assign _ _
    · exact hwarned _
  · split
    · exact m.keeps_assign _ _
    · exact hwarned _
  · exact m.keeps_assign _ _

theorem isKeeping_getOption : IsKeeping getOption
  | [], m => m.keeps_abort _
  | [_], m => m.keeps_abort _
  | known :: name :: others, m => by
    unfold getOption
    dsimp only
    have hset := fun option isQuiet index letter =>
      ((keeps_keep option isQuiet m).trans (Machine.keeps_assign _ "OPTIND" index)).trans
        (Machine.keeps_assign _ (String.ofList name) letter)
    refine Keeps.trans ?_ (Machine.keeps_ended _ _)
    exact (hset _ _ _ _).trans ⟨rfl, rfl, rfl, rfl, rfl, rfl, rfl, rfl, fun _ => id⟩

/-! ## Lines, directories and masks -/

theorem keeps_assignFields (names fields : List (List Char)) (m : Machine) :
    m.Keeps (assignFields names fields m) := by
  induction names generalizing fields m with
  | nil => exact .refl m
  | cons name names ih =>
    unfold assignFields
    dsimp only
    split
    · exact (m.keeps_assign _ _).trans (ih _ _)
    · exact m.keeps_assign _ _

theorem isKeeping_read : IsKeeping read := by
  refine isKeeping_withOptions fun options names m => ?_
  split
  · exact m.keeps_abort _
  · have hread := fun rest fields =>
      (Keeps.of_scope (Machine.scope_leave rest)).trans (keeps_assignFields names fields (m.leave rest))
    dsimp only
    split
    · exact hread _ _
    · exact hread _ _

theorem isKeeping_cd : IsKeeping cd := by
  refine isKeeping_withOptions fun options operands m => ?_
  have hset : ∀ (name : String) (value : List Char) (m : Machine), m.Keeps ((m.assign name value).publish name) :=
    fun name value m => (m.keeps_assign name value).trans (Machine.keeps_publish _ name)
  dsimp only
  split
  · exact m.keeps_abort _
  · have hleft := fun (place : FilePlace) (text : List Char) => (hset "OLDPWD" text m).trans
      (c := { (m.assign "OLDPWD" text).publish "OLDPWD" with scope.working := place })
      ⟨rfl, rfl, rfl, rfl, rfl, rfl, rfl, rfl, fun _ => id⟩
    split
    · split
      · exact .refl m
      · split
        · exact ((hleft _ _).trans (hset "PWD" _ _)).trans (keeps_print _ _ _)
        · exact (hleft _ _).trans (hset "PWD" _ _)
    · split
      · exact .refl m
      · split
        · exact (hleft _ _).trans (keeps_print _ _ _)
        · exact hleft _ _

theorem isKeeping_pwd : IsKeeping pwd := isKeeping_withOptions fun _ _ m => keeps_print _ _ m

theorem isKeeping_umask : IsKeeping umask := by
  refine isKeeping_withOptions fun options operands m => ?_
  split
  · exact keeps_print _ _ m
  · split
    · split
      · exact ⟨rfl, rfl, rfl, rfl, rfl, rfl, rfl, rfl, fun _ => id⟩
      · exact m.keeps_abort _
    · split
      · exact ⟨rfl, rfl, rfl, rfl, rfl, rfl, rfl, rfl, fun _ => id⟩
      · exact m.keeps_abort _

/-! ## Names, traps and jobs -/

theorem isKeeping_defineAlias : IsKeeping defineAlias := by
  intro arguments m
  unfold defineAlias
  split
  · exact keeps_print _ _ m
  · change (m.withStatus 0).Keeps _
    refine keeps_foldl (fun m argument => ?_) arguments _
    split
    · exact .of_scope (Machine.scope_warn _)
    · split
      · exact ⟨rfl, rfl, rfl, rfl, rfl, rfl, rfl, rfl, fun _ => id⟩
      · split
        · exact .of_scope (Machine.scope_write 1 _)
        · exact .of_scope (Machine.scope_warn _)

theorem isKeeping_forgetAlias : IsKeeping forgetAlias := by
  refine isKeeping_withOptions fun options names m => ?_
  split
  · exact ⟨rfl, rfl, rfl, rfl, rfl, rfl, rfl, rfl, fun _ => id⟩
  · change (m.withStatus 0).Keeps _
    refine keeps_foldl (fun m name => ?_) names _
    split
    · exact ⟨rfl, rfl, rfl, rfl, rfl, rfl, rfl, rfl, fun _ => id⟩
    · exact .of_scope (Machine.scope_warn _)

theorem keeps_setTraps (action : Option (List Char)) (names : List (List Char)) (m : Machine) :
    m.Keeps (setTraps action names m) := by
  induction names generalizing m with
  | nil => exact .refl m
  | cons name names ih =>
    unfold setTraps
    split
    · exact .of_scope (Machine.scope_warn _)
    · refine Keeps.trans ?_ (ih _)
      exact ⟨rfl, rfl, rfl, rfl, rfl, rfl, rfl, rfl, fun _ => id⟩

theorem isKeeping_trap : IsKeeping trap := by
  refine isKeeping_withOptions fun options operands m => ?_
  split
  · exact keeps_print _ _ m
  · exact keeps_setTraps _ _ m
  · split
    · exact keeps_setTraps _ _ m
    · exact keeps_setTraps _ _ m

theorem keeps_waitFor (job : Job) (m : Machine) : m.Keeps (waitFor job m) := by
  refine .of_scope ?_
  unfold waitFor
  dsimp only
  split <;> simp

theorem isKeeping_wait : IsKeeping wait := by
  refine isKeeping_withOptions fun options operands m => ?_
  split
  · exact .of_scope (Machine.scope_wait _)
  · change (m.withStatus 127).Keeps _
    refine keeps_foldl (fun m operand => ?_) operands _
    split
    · exact .refl m
    · split
      · split
        · exact keeps_waitFor _ m
        · exact m.keeps_abort _
      · refine keeps_withNumber fun process => ?_
        split
        · exact keeps_waitFor _ m
        · exact .refl m

theorem isKeeping_jobs : IsKeeping jobs := by
  refine isKeeping_withOptions fun options operands m => ?_
  exact (keeps_print _ _ m).trans ⟨rfl, rfl, rfl, rfl, rfl, rfl, rfl, rfl, fun _ => id⟩

theorem isKeeping_move : IsKeeping move := by
  refine isKeeping_withOptions fun options operands m => ?_
  split
  · split <;> exact m.keeps_abort _
  · split <;> exact m.keeps_abort _

theorem isKeeping_limits : IsKeeping limits := by
  refine isKeeping_withOptions fun options operands m => ?_
  dsimp only
  split
  · exact keeps_print _ _ m
  · split
    · exact .refl m
    · exact m.keeps_abort _
  · exact m.keeps_abort _

/-- None of the commands that run no other command leaves the shell anywhere else. -/
theorem isKeeping_of_mem_all {name : String} {b : Builtin} (h : (name, b) ∈ all) : IsKeeping b := by
  have hnothing : ∀ status : Nat, IsKeeping (nothing status) := fun _ _ m => .refl m
  have hecho : IsKeeping fun arguments m => print "echo" (echoed arguments) m := fun _ m => keeps_print _ _ m
  have htimes : IsKeeping times := fun _ m => keeps_print _ _ m
  simp only [all, List.mem_cons, Prod.mk.injEq, List.not_mem_nil, or_false] at h
  obtain ⟨-, rfl⟩ | ⟨-, rfl⟩ | ⟨-, rfl⟩ | ⟨-, rfl⟩ | ⟨-, rfl⟩ | ⟨-, rfl⟩ | ⟨-, rfl⟩ | ⟨-, rfl⟩ | ⟨-, rfl⟩ |
    ⟨-, rfl⟩ | ⟨-, rfl⟩ | ⟨-, rfl⟩ | ⟨-, rfl⟩ | ⟨-, rfl⟩ | ⟨-, rfl⟩ | ⟨-, rfl⟩ | ⟨-, rfl⟩ | ⟨-, rfl⟩ |
    ⟨-, rfl⟩ | ⟨-, rfl⟩ | ⟨-, rfl⟩ | ⟨-, rfl⟩ | ⟨-, rfl⟩ | ⟨-, rfl⟩ | ⟨-, rfl⟩ | ⟨-, rfl⟩ | ⟨-, rfl⟩ |
    ⟨-, rfl⟩ | ⟨-, rfl⟩ | ⟨-, rfl⟩ | ⟨-, rfl⟩ | ⟨-, rfl⟩ := h
  exacts [hnothing 0, hnothing 0, hnothing 1, isKeeping_exit, isKeeping_leaveCall, isKeeping_withLoops _,
    isKeeping_withLoops _, hecho, isKeeping_of_isApart isApart_printf, isKeeping_of_isApart isApart_bracket,
    isKeeping_of_isApart isApart_test, isKeeping_cd, isKeeping_cd, isKeeping_pwd, isKeeping_umask, isKeeping_read,
    isKeeping_set, isKeeping_shift, isKeeping_publish, isKeeping_keep, isKeeping_hide, isKeeping_unset,
    isKeeping_getOption, isKeeping_defineAlias, isKeeping_forgetAlias, isKeeping_trap, isKeeping_wait,
    isKeeping_jobs, isKeeping_move, isKeeping_move, htimes, isKeeping_limits]

end Builtin

end CodeBlock.Shell
