import CodeBlock.Proofs.Shell.Apart
import CodeBlock.Proofs.Table
import CodeBlock.Shell.Records
import Mathlib.Tactic.SplitIfs

set_option autoImplicit false

/-! # What a script over records cannot change

A run of a script evaluates expressions, calls functions, reads records and prints, and any of these may be left
by a failure, by an exit or by the end of a rule. However it goes, the shell that started the program has the
scope that it had, each call gives the variables and the depth of its caller back, and the status is one that
fits into a byte. The proof goes with the evaluator: what each kind of expression and statement keeps follows
from what its parts keep. -/

namespace CodeBlock.Shell.Records

/-- What is the same after any part of a run: the script, the scope of the shell, and which variables are those of
    the function that is run. A status stays within a byte. -/
structure Session.Keeps (s after : Session) : Prop where
  script : after.script = s.script
  scope : after.machine.scope = s.machine.scope
  depth : after.depth = s.depth
  locals : after.locals.map Prod.fst = s.locals.map Prod.fst
  status : s.status < 256 → after.status < 256

namespace Session.Keeps

variable {a b c : Session}

theorem refl (s : Session) : s.Keeps s := ⟨rfl, rfl, rfl, rfl, id⟩

theorem trans (hab : a.Keeps b) (hbc : b.Keeps c) : a.Keeps c :=
  ⟨hbc.script.trans hab.script, hbc.scope.trans hab.scope, hbc.depth.trans hab.depth, hbc.locals.trans hab.locals,
    hbc.status ∘ hab.status⟩

end Session.Keeps

namespace Session

variable (s : Session)

/-! ## Variables and fields -/

theorem keeps_setCell (name : String) (cell : Cell) : s.Keeps (s.setCell name cell) := by
  unfold setCell
  split_ifs with h
  · have hmem : name ∈ s.locals.map Prod.fst := by
      obtain ⟨entry, hentry, heq⟩ := List.lookup_isSome_iff.1 h
      rw [beq_iff_eq.1 heq]
      exact List.mem_map_of_mem hentry
    exact ⟨rfl, rfl, rfl, CodeBlock.Table.map_fst_put cell hmem, id⟩
  · exact ⟨rfl, rfl, rfl, rfl, id⟩

theorem keeps_setRecord (v : Value) : s.Keeps (s.setRecord v) := ⟨rfl, rfl, rfl, rfl, id⟩

theorem keeps_setField (number : Nat) (v : Value) : s.Keeps (s.setField number v) := by
  unfold setField
  split_ifs
  · exact s.keeps_setRecord v
  · exact ⟨rfl, rfl, rfl, rfl, id⟩
  · exact ⟨rfl, rfl, rfl, rfl, id⟩

theorem keeps_joinFields_resize (count : Nat) : s.Keeps (s.resize count).joinFields := ⟨rfl, rfl, rfl, rfl, id⟩

theorem keeps_set (name : String) (v : Value) : s.Keeps (s.set name v) := by
  have hcell := s.keeps_setCell name (.value v)
  unfold set
  dsimp only
  split_ifs
  · exact hcell.trans (keeps_joinFields_resize _ _)
  · exact hcell

/-! ## Tables -/

theorem keeps_tableOf (name : String) : s.Keeps (s.tableOf name).2 := by
  have hcell := keeps_setCell { s with tables := s.tables.push .empty } name (.table s.tables.size)
  unfold tableOf
  split
  · exact .refl s
  · exact ⟨hcell.script, hcell.scope, hcell.depth, hcell.locals, hcell.status⟩

theorem keeps_findKey (number : Nat) (make : Bool) (key : Value) : s.Keeps (s.findKey number make key).2 :=
  ⟨rfl, rfl, rfl, rfl, id⟩

/-! ## Printing -/

theorem scope_appendTo (m : Machine) (name text : List Char) : (appendTo m name text).scope = m.scope := by
  unfold appendTo
  split <;> rfl

theorem keeps_flush : s.Keeps s.flush := ⟨rfl, Machine.scope_write _ _, rfl, rfl, id⟩

theorem keeps_flushAll : s.Keeps s.flushAll := by
  have hprinted : ∀ (sinks : List Sink) (m : Machine),
      (sinks.foldl (fun m sink => appendTo m sink.name sink.pieces.reverse.flatten) m).scope = m.scope := by
    intro sinks m
    induction sinks generalizing m with
    | nil => rfl
    | cons sink sinks ih => rw [List.foldl_cons, ih, scope_appendTo]
  exact ⟨rfl, (Machine.scope_write _ _).trans (hprinted _ _), rfl, rfl, id⟩

variable (run : Runner)

theorem keeps_runCommand (command : List Char) (input : Option (List Char)) :
    s.Keeps (s.runCommand run command input).2 := by
  cases input with
  | none => exact ⟨rfl, scope_runShell run _ _ _ _ _, rfl, rfl, id⟩
  | some text => exact ⟨rfl, rfl, rfl, rfl, id⟩

theorem keeps_outputOf (command : List Char) : s.Keeps (s.outputOf run command).2.2 := by
  have hflushed := s.keeps_flushAll
  exact ⟨hflushed.script, hflushed.scope, hflushed.depth, hflushed.locals, hflushed.status⟩

theorem keeps_closeSink (sink : Sink) : s.Keeps (s.closeSink run sink).2 := by
  unfold closeSink
  dsimp only
  split_ifs
  · have hran := keeps_runCommand { s with sinks := s.sinks.filter fun other => other.name != sink.name } run
      sink.name (some sink.pieces.reverse.flatten)
    exact ⟨hran.script, hran.scope, hran.depth, hran.locals, hran.status⟩
  · exact ⟨rfl, scope_appendTo _ _ _, rfl, rfl, id⟩

theorem keeps_closeAll : s.Keeps (s.closeAll run) := by
  have hclosed : ∀ (sinks : List Sink) (s : Session),
      s.Keeps (sinks.foldl (fun s sink => (closeSink run s sink).2) s) := by
    intro sinks s
    induction sinks generalizing s with
    | nil => exact .refl s
    | cons sink sinks ih => exact (s.keeps_closeSink run sink).trans (ih _)
  exact (hclosed _ _).trans (keeps_flush _)

end Session

namespace Action

variable {α β : Type} {s : Session}

/-- Whether what no part of a run changes is kept by an action that starts in a state. -/
def KeepsFrom (s : Session) (a : Action α) : Prop := s.Keeps (a.run s).2

/-- Whether an action keeps what no part of a run changes. -/
def Keeps (a : Action α) : Prop := ∀ s : Session, KeepsFrom s a

theorem keeps_pure (x : α) : Keeps (pure x) := Session.Keeps.refl

theorem keeps_throw (stop : Stop) : Keeps (throw stop : Action α) := Session.Keeps.refl

theorem keeps_get : Keeps (get : Action Session) := Session.Keeps.refl

theorem keeps_modify {f : Session → Session} (hf : ∀ s : Session, s.Keeps (f s)) :
    Keeps (modify f : Action Unit) := hf

theorem keepsFrom_modify {f : Session → Session} (h : s.Keeps (f s)) : KeepsFrom s (modify f : Action Unit) := h

theorem keepsFrom_set {after : Session} (h : s.Keeps after) : KeepsFrom s (set after : Action Unit) := h

theorem keepsFrom_get_bind {f : Session → Action α} (hf : KeepsFrom s (f s)) : KeepsFrom s (get >>= f) := hf

theorem KeepsFrom.bind {a : Action α} {f : α → Action β} (ha : KeepsFrom s a) (hf : ∀ x, Keeps (f x)) :
    KeepsFrom s (a >>= f) := by
  unfold KeepsFrom at *
  simp only [Bind.bind, ExceptT.bind, ExceptT.run, ExceptT.mk, StateT.bind] at ha ⊢
  cases hrun : a s with
  | mk result after =>
    rw [hrun] at ha
    cases result with
    | ok x => exact ha.trans (hf x after)
    | error stop => exact ha

theorem Keeps.bind {a : Action α} {f : α → Action β} (ha : Keeps a) (hf : ∀ x, Keeps (f x)) : Keeps (a >>= f) :=
  fun s => (ha s).bind hf

theorem Keeps.ite {c : Prop} [Decidable c] {a b : Action α} (ha : Keeps a) (hb : Keeps b) :
    Keeps (if c then a else b) := by
  split_ifs
  · exact ha
  · exact hb

theorem Keeps.tryCatch {a : Action α} {f : Stop → Action α} (ha : Keeps a) (hf : ∀ stop, Keeps (f stop)) :
    Keeps (tryCatch a f) := by
  intro s
  have hs := ha s
  unfold KeepsFrom at *
  simp only [MonadExcept.tryCatch, tryCatchThe, MonadExceptOf.tryCatch, ExceptT.tryCatch, ExceptT.run, ExceptT.mk,
    Bind.bind, StateT.bind] at hs ⊢
  cases hrun : a s with
  | mk result after =>
    rw [hrun] at hs
    cases result with
    | ok x => exact hs
    | error stop => exact hs.trans (hf stop after)

/-! ## Values -/

theorem keeps_textOf (v : Value) : Keeps (textOf v) := Session.Keeps.refl

theorem keeps_fail (message : List Char) : Keeps (fail message : Action α) := Session.Keeps.refl

theorem keeps_regex (s : List Char) : Keeps (regex s) := by
  unfold regex
  split
  · exact keeps_pure _
  · exact keeps_fail _

theorem keeps_read (slot : Slot) : Keeps (read slot) := Session.Keeps.refl

theorem keeps_store (slot : Slot) (v : Value) : Keeps (store slot v) := by
  cases slot with
  | named name =>
    have hset : Keeps (modify fun s => s.set name v) := keeps_modify fun s => s.keeps_set name v
    have hchecked : ∀ text : List Char, Keeps (if text.length > 1 then do let _ ← regex text else pure ()) := by
      intro text
      split_ifs
      · exact .bind (keeps_regex text) fun _ => keeps_pure _
      · exact keeps_pure _
    intro s
    refine keepsFrom_get_bind ?_
    dsimp only
    split_ifs
    · exact .bind (keeps_fail _ s) fun _ => .bind hset fun _ => .bind (keeps_textOf v) hchecked
    · exact .bind (keeps_fail _ s) fun _ => .bind hset fun _ => keeps_pure _
    · exact .bind (hset s) fun _ => .bind (keeps_textOf v) hchecked
    · exact .bind (hset s) fun _ => keeps_pure _
  | field number => exact keeps_modify fun s => s.keeps_setField number v
  | element table key => exact keeps_modify fun s => ⟨rfl, rfl, rfl, rfl, id⟩

theorem keeps_shared (name : String) : Keeps (shared name) := fun s =>
  keepsFrom_get_bind (.bind (keepsFrom_set (s.keeps_tableOf name)) fun _ => keeps_pure _)

theorem keeps_checkMachine : Keeps checkMachine := by
  intro s
  refine keepsFrom_get_bind ?_
  split_ifs
  · exact keeps_pure _ s
  · exact keeps_throw _ s

/-! ## Reading -/

theorem keeps_storeParts (table : String) (parts : List (List Char)) : Keeps (storeParts table parts) := by
  intro s
  have htable := s.keeps_tableOf table
  refine keepsFrom_get_bind (.bind (keepsFrom_set ?_) fun _ => keeps_pure _)
  exact ⟨htable.script, htable.scope, htable.depth, htable.locals, htable.status⟩

theorem keeps_countRecord (ofAll : Bool) : Keeps (countRecord ofAll) := by
  refine keeps_modify fun s => ?_
  cases ofAll <;> exact ⟨rfl, rfl, rfl, rfl, id⟩

theorem keeps_nextText (fuel : Nat) : Keeps (nextText fuel) := by
  induction fuel with
  | zero => exact keeps_pure _
  | succ fuel ih =>
      intro s
      refine keepsFrom_get_bind ?_
      dsimp only
      split
      · exact keeps_pure _ s
      · refine .bind (keepsFrom_set ⟨rfl, rfl, rfl, rfl, id⟩) fun _ => ?_
        split
        · exact ih
        · split
          · exact .bind (keeps_store _ _) fun _ => ih
          · exact keeps_pure _

theorem keeps_contentOf (name : List Char) : Keeps (contentOf name) := by
  intro s
  refine keepsFrom_get_bind ?_
  dsimp only
  split_ifs
  · exact .bind (keepsFrom_modify ⟨rfl, Machine.scope_leave _, rfl, rfl, id⟩) fun _ => keeps_pure _
  · exact keeps_pure _ s

theorem keeps_openNext : Keeps openNext := by
  intro s
  refine keepsFrom_get_bind (.bind (keeps_nextText _ s) fun found => ?_)
  split
  · refine .bind (keeps_modify fun s => ⟨rfl, rfl, rfl, rfl, id⟩) fun _ => .bind (keeps_contentOf _) fun text => ?_
    dsimp only
    split
    · exact .bind (keeps_modify fun s => ⟨rfl, rfl, rfl, rfl, id⟩) fun _ => keeps_pure _
    · exact .bind (keeps_throw _) fun _ => keeps_pure _
    · exact .bind (keeps_throw _) fun _ => keeps_pure _
  · refine fun s => keepsFrom_get_bind ?_
    split_ifs
    · exact keeps_pure _ s
    · exact .bind (keepsFrom_modify ⟨rfl, Machine.scope_leave _, rfl, rfl, id⟩) fun _ => keeps_pure _

theorem keeps_nextRecord (fuel : Nat) : Keeps (nextRecord fuel) := by
  induction fuel with
  | zero => exact keeps_pure _
  | succ fuel ih =>
      intro s
      refine keepsFrom_get_bind ?_
      split
      · split
        · exact .bind (keepsFrom_set ⟨rfl, rfl, rfl, rfl, id⟩) fun _ => keeps_pure _
        · exact .bind (keepsFrom_set ⟨rfl, rfl, rfl, rfl, id⟩) fun _ => ih
      · refine .bind (keeps_openNext s) fun isOpen => ?_
        split_ifs
        · exact ih
        · exact keeps_pure _

theorem keeps_takeRecord : Keeps takeRecord := by
  intro s
  refine keepsFrom_get_bind (.bind (keeps_nextRecord _ s) fun record => ?_)
  split_ifs
  · exact .bind (keeps_countRecord true) fun _ => keeps_pure _
  · exact keeps_pure _

theorem keeps_takeOut (source : Source) : Keeps (takeOut source) :=
  .bind keeps_get fun _ => .bind (keeps_modify fun _ => ⟨rfl, rfl, rfl, rfl, id⟩) fun _ => keeps_pure _

theorem keeps_takeFrom (run : Runner) (isCommand : Bool) (name : List Char) :
    Keeps (takeFrom run isCommand name) := by
  intro s
  refine keepsFrom_get_bind ?_
  dsimp only
  split
  · exact .bind (keeps_takeOut _ s) fun _ => keeps_pure _
  · split_ifs
    · exact .bind (keepsFrom_set (s.keeps_outputOf run name)) fun _ => .bind keeps_checkMachine fun _ =>
        .bind (keeps_takeOut _) fun _ => keeps_pure _
    · refine .bind (keeps_contentOf name s) fun text => ?_
      split
      · exact .bind (keeps_takeOut _) fun _ => keeps_pure _
      · exact keeps_throw _
      · exact keeps_pure _

/-! ## Printing -/

theorem keeps_printTo (name : List Char) (isCommand atEnd : Bool) (text : List Char) :
    Keeps (printTo name isCommand atEnd text) := by
  unfold printTo
  split
  · exact keeps_modify fun s => ⟨rfl, rfl, rfl, rfl, id⟩
  · split
    · exact keeps_modify fun s => ⟨rfl, Machine.scope_write _ _, rfl, rfl, id⟩
    · refine fun s => keepsFrom_get_bind ?_
      split
      · exact keepsFrom_set ⟨rfl, rfl, rfl, rfl, id⟩
      · split
        · have hflushed := s.keeps_flushAll
          exact keepsFrom_set ⟨rfl, hflushed.scope, rfl, rfl, id⟩
        · split
          · exact keeps_pure _ s
          · split
            · refine keepsFrom_set ⟨rfl, ?_, rfl, rfl, id⟩
              dsimp only
              split_ifs <;> rfl
            · exact keeps_throw _ s

theorem keeps_close (run : Runner) (name : List Char) : Keeps (close run name) := by
  intro s
  refine keepsFrom_get_bind ?_
  dsimp only
  split
  · refine .bind (keepsFrom_set ?_) fun _ => .bind keeps_checkMachine fun _ => keeps_pure _
    have hclosed := Session.keeps_closeSink { s with sources := s.sources.filter (·.name != name) } run
    exact ⟨(hclosed _).script, (hclosed _).scope, (hclosed _).depth, (hclosed _).locals, (hclosed _).status⟩
  · exact .bind (keepsFrom_set ⟨rfl, rfl, rfl, rfl, id⟩) fun _ => keeps_pure _

end Action

end CodeBlock.Shell.Records
