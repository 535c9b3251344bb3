import CodeBlock.Proofs.Shell.Records.Steady

set_option autoImplicit false

/-! # Runs of scripts over records

What an expression or a statement keeps follows from what its parts keep, so there is one lemma for each function
of the evaluator, and the induction over the fuel goes through all of them at once. From it follow the rules, the
records and the program as a whole. -/

namespace CodeBlock.Shell.Records

open Records.Action

variable (run : Runner)

/-- What is evaluated with some fuel keeps what no part of a run changes. -/
structure Keeping (fuel : Nat) : Prop where
  evaluate (e : Expr) : Keeps (evaluate run fuel e)
  keep (target : Option Expr) (record : List Char) : Keeps (keep run fuel target record)
  readFrom (target : Option Expr) (found : Except Unit (Option (List Char))) :
    Keeps (readFrom run fuel target found)
  slotOf (e : Expr) : Keeps (slotOf run fuel e)
  keyFrom (key : List Expr) : Keeps (keyFrom run fuel key)
  textsFrom (row : List Expr) : Keeps (textsFrom run fuel row)
  valuesFrom (row : List Expr) : Keeps (valuesFrom run fuel row)
  regexFrom (e : Expr) : Keeps (regexFrom run fuel e)
  apply (f : Function) (given : List Expr) : Keeps (apply run fuel f given)
  replace (limit : Nat) (pattern new : Expr) (target : List Expr) :
    Keeps (replace run fuel limit pattern new target)
  cellsFrom (row : List Expr) : Keeps (cellsFrom run fuel row)
  call (name : String) (given : List Expr) : Keeps (call run fuel name given)
  statements (row : List Statement) : Keeps (statements run fuel row)
  printText (target : Option Target) (text : List Char) : Keeps (printText run fuel target text)
  execute (statement : Statement) : Keeps (execute run fuel statement)
  loop (condition : Option Expr) (step body : List Statement) : Keeps (loop run fuel condition step body)
  each (name : String) (body : List Statement) (keys : List (List Char)) : Keeps (each run fuel name body keys)

variable {run} {fuel : Nat}

theorem keeps_oneRound {body : Action Unit} (h : Keeps body) : Keeps (oneRound body) := by
  refine .tryCatch (.bind h fun _ => keeps_pure _) fun stop => ?_
  split
  · exact keeps_pure _
  · exact keeps_pure _
  · exact keeps_throw _

theorem keeping_zero : Keeping run 0 := by
  constructor <;> intros <;> exact keeps_throw _

namespace Keeping

variable (h : Keeping run fuel)

include h

/-! ## Expressions -/

theorem evaluate_succ (e : Expr) : Keeps (Records.evaluate run (fuel + 1) e) := by
  cases e <;> rw [Records.evaluate]
  case number x => exact keeps_pure _
  case text s => exact keeps_pure _
  case pattern r => exact .bind keeps_get fun s => .bind (keeps_textOf _) fun _ => keeps_pure _
  case named name => exact .bind keeps_get fun s => keeps_pure _
  case field index => exact .bind (h.slotOf _) keeps_read
  case element table key => exact .bind (h.slotOf _) keeps_read
  case assign target value =>
    exact .bind (h.slotOf target) fun slot => .bind (h.evaluate value) fun v =>
      .bind (keeps_store slot v) fun _ => keeps_pure _
  case update operator target value =>
    exact .bind (h.slotOf target) fun slot => .bind (h.evaluate value) fun b => .bind (keeps_read slot) fun a =>
      .bind (keeps_store slot _) fun _ => keeps_pure _
  case count up before target =>
    exact .bind (h.slotOf target) fun slot => .bind (keeps_read slot) fun old =>
      .bind (keeps_store slot _) fun _ => keeps_pure _
  case choose condition yes no =>
    exact .bind (h.evaluate condition) fun _ => .ite (h.evaluate yes) (h.evaluate no)
  case or a b =>
    exact .bind (h.evaluate a) fun _ => .ite (keeps_pure _) (.bind (h.evaluate b) fun _ => keeps_pure _)
  case and a b =>
    exact .bind (h.evaluate a) fun _ => .ite (.bind (h.evaluate b) fun _ => keeps_pure _) (keeps_pure _)
  case not a => exact .bind (h.evaluate a) fun _ => keeps_pure _
  case minus a => exact .bind (h.evaluate a) fun _ => keeps_pure _
  case plus a => exact .bind (h.evaluate a) fun _ => keeps_pure _
  case arithmetic operator a b => exact .bind (h.evaluate a) fun _ => .bind (h.evaluate b) fun _ => keeps_pure _
  case compare operator a b =>
    exact .bind (h.evaluate a) fun _ => .bind (h.evaluate b) fun _ => .bind keeps_get fun _ => keeps_pure _
  case join a b =>
    exact .bind (h.evaluate a) fun _ => .bind (keeps_textOf _) fun _ => .bind (h.evaluate b) fun _ =>
      .bind (keeps_textOf _) fun _ => keeps_pure _
  case fits negated a pattern =>
    exact .bind (h.evaluate a) fun _ => .bind (keeps_textOf _) fun _ => .bind (h.regexFrom pattern) fun _ =>
      keeps_pure _
  case isKey key table =>
    refine .bind (h.keyFrom key) fun key s => keepsFrom_get_bind (.bind (keepsFrom_set ?_) fun _ => keeps_pure _)
    exact (s.keeps_tableOf table).trans (Session.keeps_findKey _ _ _ _)
  case call name given => exact h.call name given
  case apply f given => exact h.apply f given
  case readRecord target =>
    refine .bind keeps_takeRecord fun record => ?_
    split
    · exact .bind (h.keep target _) fun _ => keeps_pure _
    · exact keeps_pure _
  case readFile target file =>
    exact .bind (h.evaluate file) fun _ => .bind (keeps_textOf _) fun name => .bind (keeps_takeFrom run _ name)
      (h.readFrom target)
  case readCommand target command =>
    exact .bind (h.evaluate command) fun _ => .bind (keeps_textOf _) fun name => .bind (keeps_takeFrom run _ name)
      (h.readFrom target)
  case grouped inner => exact h.evaluate inner

theorem keep_succ (target : Option Expr) (record : List Char) :
    Keeps (Records.keep run (fuel + 1) target record) := by
  unfold Records.keep
  split
  · exact .bind (h.slotOf _) fun slot => keeps_store slot _
  · exact keeps_modify fun s => s.keeps_setRecord _

theorem readFrom_succ (target : Option Expr) (found : Except Unit (Option (List Char))) :
    Keeps (Records.readFrom run (fuel + 1) target found) := by
  unfold Records.readFrom
  split
  · exact keeps_pure _
  · exact keeps_pure _
  · exact .bind (h.keep target _) fun _ => keeps_pure _

theorem slotOf_succ (e : Expr) : Keeps (Records.slotOf run (fuel + 1) e) := by
  unfold Records.slotOf
  split
  · exact keeps_pure _
  · exact .bind (h.evaluate _) fun _ => .ite (.bind (keeps_fail _) fun _ => keeps_pure _) (keeps_pure _)
  · refine .bind (h.keyFrom _) fun key s => keepsFrom_get_bind (.bind (keepsFrom_set ?_) fun _ => keeps_pure _)
    exact (s.keeps_tableOf _).trans (Session.keeps_findKey _ _ _ _)
  · exact h.slotOf _
  · exact keeps_throw _

theorem keyFrom_succ (key : List Expr) : Keeps (Records.keyFrom run (fuel + 1) key) := by
  unfold Records.keyFrom
  split
  · exact h.evaluate _
  · exact .bind (h.textsFrom _) fun _ => .bind keeps_get fun _ => keeps_pure _

theorem textsFrom_succ (row : List Expr) : Keeps (Records.textsFrom run (fuel + 1) row) := by
  cases row with
  | nil => exact keeps_pure _
  | cons e rest =>
    rw [Records.textsFrom]
    exact .bind (h.evaluate e) fun _ => .bind (keeps_textOf _) fun _ =>
      .bind (h.textsFrom rest) fun _ => keeps_pure _

theorem valuesFrom_succ (row : List Expr) : Keeps (Records.valuesFrom run (fuel + 1) row) := by
  cases row with
  | nil => exact keeps_pure _
  | cons e rest =>
    rw [Records.valuesFrom]
    exact .bind (h.evaluate e) fun _ => .bind (h.valuesFrom rest) fun _ => keeps_pure _

theorem regexFrom_succ (e : Expr) : Keeps (Records.regexFrom run (fuel + 1) e) := by
  unfold Records.regexFrom
  split
  · exact keeps_pure _
  · exact h.regexFrom _
  · exact .bind (h.evaluate _) fun _ => .bind (keeps_textOf _) keeps_regex

theorem replace_succ (limit : Nat) (pattern new : Expr) (target : List Expr) :
    Keeps (Records.replace run (fuel + 1) limit pattern new target) := by
  unfold Records.replace
  refine .bind (h.regexFrom pattern) fun r => .bind (h.evaluate new) fun _ => .bind (keeps_textOf _) fun new => ?_
  refine .ite (.bind (h.slotOf _) fun slot => ?_) (.bind (h.evaluate _) fun _ => ?_)
  · exact .bind (keeps_read slot) fun _ => .bind (keeps_textOf _) fun text =>
      .ite (.bind (keeps_store slot _) fun _ => keeps_pure _) (keeps_pure _)
  · exact .bind (keeps_textOf _) fun _ => keeps_pure _

theorem cellsFrom_succ (row : List Expr) : Keeps (Records.cellsFrom run (fuel + 1) row) := by
  cases row with
  | nil => exact keeps_pure _
  | cons e rest =>
    have hrest : ∀ cell : Cell, Keeps (do return cell :: (← Records.cellsFrom run fuel rest)) := fun cell =>
      .bind (h.cellsFrom rest) fun _ => keeps_pure _
    unfold Records.cellsFrom
    dsimp only
    split
    · refine .bind keeps_get fun s => ?_
      split
      · exact .bind (keeps_shared _) hrest
      · exact .bind (keeps_shared _) hrest
      · exact .bind (keeps_pure _) hrest
    · exact .bind (h.evaluate _) fun _ => .bind (keeps_pure _) hrest

theorem text_of (e : Expr) {f : List Char → Action Value} (hf : ∀ text, Keeps (f text)) :
    Keeps (Records.evaluate run fuel e >>= fun v => textOf v >>= f) :=
  .bind (h.evaluate e) fun v => .bind (keeps_textOf v) hf

theorem number_of (e : Expr) {f : Binary64 → Action Value} (hf : ∀ x, Keeps (f x)) :
    Keeps ((do return (← Records.evaluate run fuel e).toNumber) >>= f) :=
  .bind (.bind (h.evaluate e) fun _ => keeps_pure _) hf

theorem apply_succ (f : Function) (given : List Expr) : Keeps (Records.apply run (fuel + 1) f given) := by
  unfold Records.apply
  dsimp only
  split
  case h_1 => exact .bind keeps_get fun s => .bind (keeps_textOf s.record) fun _ => keeps_pure _
  case h_2 e =>
    refine .bind keeps_get fun s => ?_
    split
    · exact .bind keeps_get fun _ => keeps_pure _
    · exact h.text_of e fun _ => keeps_pure _
  case h_3 e start length =>
    refine h.text_of e fun text => .bind (h.evaluate start) fun start => ?_
    split
    · exact .bind (keeps_pure _) fun _ => keeps_pure _
    · exact .bind (h.evaluate _) fun _ => .bind (keeps_pure _) fun _ => keeps_pure _
  case h_4 e part => exact h.text_of e fun _ => h.text_of part fun _ => keeps_pure _
  case h_5 e table separator =>
    refine h.text_of e fun text => ?_
    split
    · exact .bind keeps_get fun _ => .bind (keeps_pure _) fun _ => keeps_storeParts table _
    · exact .bind (keeps_pure _) fun _ => keeps_storeParts table _
    · refine h.text_of _ fun _ => ?_
      split
      · exact .bind (keeps_pure _) fun _ => keeps_storeParts table _
      · exact .bind (keeps_fail _) fun _ => keeps_storeParts table _
  case h_6 pattern new target | h_7 pattern new target => exact h.replace _ pattern new target
  case h_8 e pattern =>
    refine h.text_of e fun text => .bind (h.regexFrom pattern) fun r => ?_
    exact .bind (keeps_modify fun s => ⟨rfl, rfl, rfl, rfl, id⟩) fun _ => keeps_pure _
  case h_9 format values =>
    refine h.text_of format fun format => .bind (h.valuesFrom values) fun values => .bind keeps_get fun s => ?_
    split
    · exact keeps_pure _
    · exact keeps_fail _
  -- numbers of one number, and the angle of two
  case h_10 e | h_11 e | h_12 e | h_13 e | h_14 e | h_16 e => exact h.number_of e fun _ => keeps_pure _
  case h_15 a b => exact h.number_of a fun _ => h.number_of b fun _ => keeps_pure _
  case h_17 =>
    exact .bind keeps_get fun _ => .bind (keeps_modify fun s => ⟨rfl, rfl, rfl, rfl, id⟩) fun _ => keeps_pure _
  case h_18 given =>
    have hrest : ∀ new : Value, Keeps (do
        let old := (← get).seed
        modify fun s => { s with seed := new }
        return old : Action Value) := fun new =>
      .bind keeps_get fun _ => .bind (keeps_modify fun s => ⟨rfl, rfl, rfl, rfl, id⟩) fun _ => keeps_pure _
    split
    · exact .bind keeps_get fun _ => .bind (keeps_pure _) hrest
    · exact .bind (h.evaluate _) hrest
  case h_19 e | h_20 e => exact h.text_of e fun _ => keeps_pure _
  -- a command that a script runs has what the script printed before it
  case h_21 e =>
    refine h.text_of e fun command s => keepsFrom_get_bind (.bind (keepsFrom_set ?_) fun _ =>
      .bind keeps_checkMachine fun _ => keeps_pure _)
    exact s.keeps_flushAll.trans (Session.keeps_runCommand _ run command none)
  case h_22 e => exact h.text_of e fun name => .bind (keeps_close run name) fun _ => keeps_pure _
  case h_23 =>
    exact .bind (h.valuesFrom _) fun _ => .bind (keeps_modify fun s => s.keeps_flushAll) fun _ => keeps_pure _
  case h_24 => exact keeps_pure _

omit h in
theorem keepsFrom_set_bind {α : Type} {s entered : Session} {f : Unit → Action α}
    (hf : s.Keeps ((f ()).run entered).2) : KeepsFrom s (set entered >>= f) := hf

omit h in
/-- A function that is left, in whatever way, leaves its caller what `back` gives back. -/
theorem keepsFrom_entered {body : Action Unit} (hbody : Keeps body) {s entered : Session} {back : Session → Session}
    (hback : ∀ inner : Session, entered.Keeps inner → s.Keeps (back inner)) :
    KeepsFrom s (do
      set entered
      tryCatch (do
        body
        modify back
        return .unset) fun stop => do
          modify back
          match stop with
          | .giveBack v => return v
          | stop => throw stop : Action Value) := by
  refine keepsFrom_set_bind ?_
  have hinner := hbody entered
  unfold KeepsFrom at hinner
  simp only [MonadExcept.tryCatch, tryCatchThe, MonadExceptOf.tryCatch, ExceptT.tryCatch, ExceptT.run, ExceptT.mk,
    Bind.bind, ExceptT.bind, StateT.bind] at hinner ⊢
  cases hrun : body entered with
  | mk result after =>
    rw [hrun] at hinner
    cases result with
    | ok x => exact hback after hinner
    | error stop => cases stop <;> exact hback after hinner

theorem call_succ (name : String) (given : List Expr) : Keeps (Records.call run (fuel + 1) name given) := by
  unfold Records.call
  intro s
  refine keepsFrom_get_bind ?_
  dsimp only
  split
  · exact keeps_pure _ s
  · refine .bind (h.cellsFrom given s) fun cells s => keepsFrom_get_bind ?_
    split_ifs
    · exact Session.Keeps.refl s
    · exact keepsFrom_entered (h.statements _) fun inner hinner =>
        ⟨hinner.script, hinner.scope, rfl, rfl, hinner.status⟩

theorem statements_succ (row : List Statement) : Keeps (Records.statements run (fuel + 1) row) := by
  cases row with
  | nil => exact keeps_pure _
  | cons s rest =>
    rw [Records.statements]
    exact .bind (h.execute s) fun _ => h.statements rest

theorem printText_succ (target : Option Target) (text : List Char) :
    Keeps (Records.printText run (fuel + 1) target text) := by
  unfold Records.printText
  split
  · exact keeps_modify fun s => ⟨rfl, rfl, rfl, rfl, id⟩
  · exact .bind (h.evaluate _) fun _ => .bind (keeps_textOf _) fun _ => keeps_printTo _ _ _ _
  · exact .bind (h.evaluate _) fun _ => .bind (keeps_textOf _) fun _ => keeps_printTo _ _ _ _
  · exact .bind (h.evaluate _) fun _ => .bind (keeps_textOf _) fun _ => keeps_printTo _ _ _ _

theorem execute_succ (statement : Statement) : Keeps (Records.execute run (fuel + 1) statement) := by
  cases statement <;> unfold Records.execute
  case evaluate e => exact .bind (h.evaluate e) fun _ => keeps_pure _
  case print values target =>
    have hrest : ∀ values : List Value, Keeps (do
        let s ← get
        let texts := values.map (Value.toText (numberText (s.setting "OFMT")))
        Records.printText run fuel target ((texts.intersperse (s.setting "OFS")).flatten ++ s.setting "ORS")) :=
      fun values => .bind keeps_get fun s => h.printText target _
    dsimp only
    split_ifs
    · exact .bind keeps_get fun _ => .bind (keeps_pure _) hrest
    · exact .bind (h.valuesFrom values) hrest
  case printf values target =>
    refine .bind (h.valuesFrom values) fun values => .bind (keeps_textOf _) fun format => ?_
    refine .bind keeps_get fun s => .bind (h.printText target _) fun _ => ?_
    split
    · exact keeps_pure _
    · exact keeps_fail _
  case branch condition yes no =>
    exact .bind (h.evaluate condition) fun _ => .ite (h.statements yes) (h.statements no)
  case loop condition body => exact h.loop _ _ _
  case loopAfter body condition =>
    exact .bind (keeps_oneRound (h.statements body)) fun _ => .ite (h.loop _ _ _) (keeps_pure _)
  case loopFor start condition step body => exact .bind (h.statements start) fun _ => h.loop _ _ _
  case each name table body =>
    intro s
    have htable := s.keeps_tableOf table
    refine keepsFrom_get_bind (.bind (keepsFrom_set ?_) fun _ => h.each name body _)
    exact ⟨htable.script, htable.scope, htable.depth, htable.locals, htable.status⟩
  case next => exact keeps_throw _
  case nextFile => exact keeps_throw _
  case exit status =>
    dsimp only
    split
    · exact keeps_throw _
    · refine .bind (h.evaluate _) fun value => ?_
      refine .bind (keeps_modify fun s => ⟨rfl, rfl, rfl, rfl, fun _ => ?_⟩) fun _ => keeps_throw _
      dsimp only
      omega
  case giveBack value =>
    dsimp only
    split
    · exact keeps_throw _
    · exact .bind (h.evaluate _) fun _ => keeps_throw _
  case leave => exact keeps_throw _
  case again => exact keeps_throw _
  case delete table key =>
    dsimp only
    split
    · intro s
      have htable := s.keeps_tableOf table
      refine keepsFrom_get_bind (keepsFrom_set ?_)
      exact ⟨htable.script, htable.scope, htable.depth, htable.locals, htable.status⟩
    · refine .bind (h.keyFrom _) fun key s => keepsFrom_get_bind (keepsFrom_set ?_)
      have hfound := (s.keeps_tableOf table).trans (Session.keeps_findKey _ (s.tableOf table).1 false key)
      exact ⟨hfound.script, hfound.scope, hfound.depth, hfound.locals, hfound.status⟩
  case block body => exact h.statements body

theorem loop_succ (condition : Option Expr) (step body : List Statement) :
    Keeps (Records.loop run (fuel + 1) condition step body) := by
  have hrest : ∀ holds : Bool, Keeps (do
      if holds then
        if ← oneRound (Records.statements run fuel body) then
          Records.statements run fuel step
          Records.loop run fuel condition step body) := fun holds =>
    .ite (.bind (keeps_oneRound (h.statements body)) fun _ =>
      .ite (.bind (h.statements step) fun _ => h.loop condition step body) (keeps_pure _)) (keeps_pure _)
  unfold Records.loop
  dsimp only
  split
  · exact .bind (keeps_pure _) hrest
  · exact .bind (h.evaluate _) fun _ => .bind (keeps_pure _) hrest

theorem each_succ (name : String) (body : List Statement) (keys : List (List Char)) :
    Keeps (Records.each run (fuel + 1) name body keys) := by
  cases keys with
  | nil => exact keeps_pure _
  | cons key keys =>
    rw [Records.each]
    exact .bind (keeps_store _ _) fun _ => .bind (keeps_oneRound (h.statements body)) fun _ =>
      .ite (h.each name body keys) (keeps_pure _)

theorem succ : Keeping run (fuel + 1) where
  evaluate := h.evaluate_succ
  keep := h.keep_succ
  readFrom := h.readFrom_succ
  slotOf := h.slotOf_succ
  keyFrom := h.keyFrom_succ
  textsFrom := h.textsFrom_succ
  valuesFrom := h.valuesFrom_succ
  regexFrom := h.regexFrom_succ
  apply := h.apply_succ
  replace := h.replace_succ
  cellsFrom := h.cellsFrom_succ
  call := h.call_succ
  statements := h.statements_succ
  printText := h.printText_succ
  execute := h.execute_succ
  loop := h.loop_succ
  each := h.each_succ

end Keeping

variable (run)

theorem keeping (fuel : Nat) : Keeping run fuel := by
  induction fuel with
  | zero => exact keeping_zero
  | succ fuel ih => exact ih.succ

/-! ## Rules -/

theorem keeps_applies (fuel : Nat) (rule : Rule) : Keeps (applies run fuel rule) := by
  have h := keeping run fuel
  unfold applies
  split
  · exact keeps_pure _
  · exact .bind (h.evaluate _) fun _ => keeps_pure _
  · have hrest : ∀ (last : Expr) (starts : Bool), Keeps (do
        if starts then
          let ends ← evaluate run fuel last
          modify fun s =>
            let others := s.within.filter (· != rule.number)
            { s with within := if ends.isTrue then others else rule.number :: others }
          return true
        return false : Action Bool) := fun last starts =>
      .ite (.bind (h.evaluate last) fun _ => .bind (keeps_modify fun s => ⟨rfl, rfl, rfl, rfl, id⟩) fun _ =>
        keeps_pure _) (keeps_pure _)
    exact .bind keeps_get fun s => .ite (.bind (keeps_pure _) (hrest _))
      (.bind (h.evaluate _) fun _ => .bind (keeps_pure _) (hrest _))
  · exact keeps_pure _

theorem keeps_runRules (fuel : Nat) (rules : List Rule) : Keeps (runRules run fuel rules) := by
  induction rules with
  | nil => exact keeps_pure _
  | cons rule rules ih =>
    rw [runRules]
    exact .bind (keeps_applies run fuel rule) fun _ => .ite (.bind ((keeping run fuel).statements _) fun _ => ih) ih

theorem keeps_readAll (limit : Nat) (rules : List Rule) (fuel : Nat) : Keeps (readAll run limit rules fuel) := by
  induction fuel with
  | zero => exact keeps_throw _
  | succ fuel ih =>
    unfold readAll
    refine .bind keeps_takeRecord fun record => ?_
    split
    · exact keeps_pure _
    · refine .bind (keeps_modify fun s => s.keeps_setRecord _) fun _ => .bind ?_ fun _ => ih
      refine .tryCatch (keeps_runRules run limit rules) fun stop => ?_
      split
      · exact keeps_pure _
      · exact keeps_modify fun s => ⟨rfl, rfl, rfl, rfl, id⟩
      · exact keeps_throw _

theorem keeps_untilExit {body : Action Unit} (h : Keeps body) : Keeps (untilExit body) := by
  refine .tryCatch (.bind h fun _ => keeps_pure _) fun stop => ?_
  split
  · exact keeps_pure _
  · exact keeps_throw _

theorem keeps_runScript : Keeps (runScript run) := by
  refine .bind keeps_get fun s => .bind (keeps_untilExit ?_) fun _ =>
    .bind (keeps_untilExit ?_) fun _ => keeps_pure _
  · exact .bind ((keeping run _).statements _) fun _ => .ite (keeps_readAll run _ _ _) (keeps_pure _)
  · exact (keeping run _).statements _

/-! ## Programs -/

theorem keeps_forM {ι : Type} (entries : List ι) {f : ι → Action Unit} (hf : ∀ x, Keeps (f x)) :
    Keeps (entries.forM f) := by
  induction entries with
  | nil => exact keeps_pure _
  | cons x entries ih => exact .bind (hf x) fun _ => ih

theorem keeps_runSettled (i : Invocation) : Keeps (runSettled run i) := by
  unfold runSettled
  refine .bind (keeps_forM _ fun entry => keeps_store _ _) fun _ => ?_
  dsimp only
  split
  · exact .bind (keeps_store _ _) fun _ => keeps_runScript run
  · exact keeps_runScript run

variable (script : Script) (i : Invocation) (arguments : List (List Char)) (m : Machine)

theorem Session.scope_finish (s : Session) (status : Nat) : (s.finish run status).scope = s.machine.scope := by
  unfold finish
  dsimp only
  split_ifs
  · exact (s.keeps_closeAll run).scope
  · exact (s.keeps_closeAll run).scope

/-- However a script ends, the shell that started it has the scope that it had. -/
theorem scope_runWith : (runWith run script i arguments m).scope = m.scope := by
  have hkeeps : _ = m.scope := (keeps_runSettled run i (.start script arguments m)).scope
  unfold runWith
  split
  next result s hrun =>
    rw [hrun] at hkeeps
    split
    · split_ifs <;> exact hkeeps
    · exact (Session.scope_finish run _ _).trans ((Machine.scope_warn _).trans hkeeps)
    · exact (Session.scope_finish run _ _).trans hkeeps

theorem Session.status_finish {s : Session} {status : Nat} (hstatus : status < 256)
    (hgoesOn : (s.finish run status).goesOn) : (s.finish run status).status < 256 := by
  unfold finish at *
  dsimp only at *
  split_ifs at hgoesOn ⊢
  · exact hstatus
  · contradiction

/-- If the shell goes on, it does so with a status that fits into a byte. -/
theorem status_runWith (hgoesOn : (runWith run script i arguments m).goesOn) :
    (runWith run script i arguments m).status < 256 := by
  have hkeeps := (keeps_runSettled run i (.start script arguments m)).status (by simp [Session.start])
  revert hgoesOn
  unfold runWith
  split
  next result s hrun =>
    rw [hrun] at hkeeps
    split
    · split_ifs with hgoesOn
      · intro hexpired
        cases hexpired
      · intro hgoesOn'
        contradiction
    · exact Session.status_finish run (by omega)
    · exact Session.status_finish run hkeeps

/-- The program leaves the scope of the shell that starts it as it is. -/
theorem scope_program : (program run arguments m).scope = m.scope := by
  have husage : ∀ (text : List Char) (status : Nat), ((m.write 2 text).withStatus status).scope = m.scope :=
    fun text _ => Machine.scope_write 2 text
  unfold program
  split_ifs
  · exact husage _ _
  · split
    · simp
    · dsimp only
      split
      · simp
      · exact husage _ _
      · split
        · simp
        · exact scope_runWith run _ _ _ m

end CodeBlock.Shell.Records
