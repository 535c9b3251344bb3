import CodeBlock.Json.Failure
import CodeBlock.Program.Options
import Mathlib.Logic.Basic
import Mathlib.Tactic.SplitIfs

set_option autoImplicit false

/-! # Leaving a switch out

A switch that is on was turned on by one argument. The command line without that argument asks for the
same, with the switch off. The two are not read in step: the argument makes its reader look at the value
that is pending, and without it that value stays pending until the next argument, or the end. So one
reader is never ahead of the other but by that value. -/

namespace CodeBlock

namespace Options

/-- The argument that turns a switch on. -/
def Switch.flag : Switch → String
  | .expand => "--expand"
  | .raw => "--raw"
  | .help => "--help"
  | .version => "--version"

/-- Whether a switch is on. Nothing is carried out where help or the version is wanted. -/
def isOn (o : Options) : Switch → Bool
  | .expand => o.expand
  | .raw => o.raw
  | .help | .version => false

/-- The options with a switch on or off. -/
def switched (o : Options) (w : Switch) (on : Bool) : Options :=
  match w with
  | .expand => { o with expand := on }
  | .raw => { o with raw := on }
  | .help | .version => o

theorem switched_isOn (o : Options) (w : Switch) : o.switched w (o.isOn w) = o := by
  cases w <;> rfl

theorem isOn_eq_of_switched {o o' : Options} {w : Switch} (h : o'.switched w (o.isOn w) = o') :
    o'.isOn w = o.isOn w := by
  cases w
  case expand => exact (congrArg Options.expand h).symm
  case raw => exact (congrArg Options.raw h).symm
  all_goals rfl

theorem fill_switched (o : Options) (w : Switch) (on : Bool) (slot : Slot) (value : String) :
    (o.switched w on).fill slot value = (·.switched w on) <$> o.fill slot value := by
  cases slot <;> cases w <;> first | rfl | simp [fill, switched]

theorem turnOn_switched (o : Options) {w other : Switch} (hother : other ≠ w) (on : Bool) :
    (o.switched w on).turnOn other = (·.switched w on) <$> o.turnOn other := by
  rcases o with ⟨_, _, _, _, _, _, _, _, _, _, _ | _, _ | _⟩ <;> cases other <;> cases w <;>
    first | contradiction | rfl

theorem turnOn_of_isOn {o : Options} {w : Switch} (hon : o.isOn w = true) : o.turnOn w = .error .repeated := by
  cases w
  case help | version => contradiction
  all_goals exact if_pos hon

/-! ## Reading with another switch -/

namespace Progress

/-- What has been read, with a switch on or off. -/
def switched (p : Progress) (w : Switch) (on : Bool) : Progress :=
  { p with options := p.options.switched w on }

variable (p : Progress) (w : Switch) (on : Bool)

@[simp] theorem switched_pending : (p.switched w on).pending = p.pending := rfl

@[simp] theorem switched_fileGiven : (p.switched w on).fileGiven = p.fileGiven := rfl

@[simp] theorem switched_plainOnly : (p.switched w on).plainOnly = p.plainOnly := rfl

theorem switched_isOn : p.switched w (p.options.isOn w) = p := by
  rw [switched, Options.switched_isOn]

theorem settle_switched : (p.switched w on).settle = (·.switched w on) <$> p.settle := by
  unfold settle
  rcases p with ⟨o, _ | ⟨slot, _ | value⟩, fileGiven, plainOnly⟩
  · rfl
  · rfl
  · simp only [switched, fill_switched]
    cases o.fill slot value <;> rfl

theorem readPlain_switched (argument : String) :
    (p.switched w on).readPlain argument = (·.switched w on) <$> p.readPlain argument := by
  unfold readPlain
  rw [settle_switched, switched_fileGiven]
  split_ifs
  · rfl
  · cases p.settle <;> rfl

theorem readShort_switched (letters : List Char) :
    (p.switched w on).readShort letters = (·.switched w on) <$> p.readShort letters := by
  unfold readShort
  rw [settle_switched]
  split <;> first | rfl | cases p.settle <;> rfl

theorem readLong_switched {name : String} {value : Option String}
    (hname : switches.lookup name = some w → value.isSome = true) :
    (p.switched w on).readLong name value = (·.switched w on) <$> p.readLong name value := by
  unfold readLong
  rw [settle_switched]
  split
  · cases p.settle with
    | error e => rfl
    | ok r =>
        cases value with
        | none => rfl
        | some value =>
            simp only [Functor.map, Except.map, bind, Except.bind, switched, fill_switched]
            cases r.options.fill _ value <;> rfl
  · next other hslot hother =>
      split_ifs with hvalue
      · rfl
      · -- the switch itself would have been given without a value
        have hne : other ≠ w := fun h => hvalue (hname (h ▸ hother))
        cases p.settle with
        | error e => rfl
        | ok r =>
            simp only [Functor.map, Except.map, bind, Except.bind, switched, turnOn_switched _ hne]
            cases r.options.turnOn other <;> rfl
  · rfl

end Progress

/-- The long name of a switch stands behind the two dashes of its argument. -/
theorem flag_of_lookup {name : String} {w : Switch} (h : switches.lookup name = some w) :
    w.flag = "--" ++ name := by
  obtain ⟨before, after, hswitches, -⟩ := List.lookup_eq_some_iff.1 h
  have hall : ∀ entry ∈ switches, entry.2.flag = "--" ++ entry.1 := by decide
  exact hall (name, w) (by simp [hswitches])

namespace Progress

variable {p q r : Progress} {w : Switch} {argument : String}

theorem read_switched (h : argument ≠ w.flag ∨ p.plainOnly = true) (on : Bool) :
    (p.switched w on).read argument = (·.switched w on) <$> p.read argument := by
  unfold read
  rw [switched_plainOnly]
  split_ifs with hplain
  · exact readPlain_switched p w on argument
  split
  · rfl
  · next name hargument =>
      split
      · exact readLong_switched p w on fun _ => rfl
      · refine readLong_switched p w on fun hlookup => absurd ?_ (h.resolve_right hplain)
        rw [flag_of_lookup hlookup, ← String.toList_inj, hargument]
        simp
  · exact readShort_switched p w on _
  · rw [switched_pending]
    split
    · rfl
    · exact readPlain_switched p w on argument

theorem read_flag (hplain : p.plainOnly = false) (w : Switch) :
    p.read w.flag = (do
      let r ← p.settle
      return { r with options := ← r.options.turnOn w }) := by
  unfold read
  rw [hplain]
  cases w <;> rfl

/-- No other argument turns the switch on or off. -/
theorem isOn_read (hread : p.read argument = .ok q) (h : argument ≠ w.flag ∨ p.plainOnly = true) :
    q.options.isOn w = p.options.isOn w := by
  have hsame := read_switched h (p.options.isOn w)
  rw [switched_isOn, hread] at hsame
  exact isOn_eq_of_switched (congrArg options (Except.ok.inj hsame)).symm

theorem isOn_settle (hsettle : p.settle = .ok q) (w : Switch) : q.options.isOn w = p.options.isOn w := by
  have hsame := settle_switched p w (p.options.isOn w)
  rw [switched_isOn, hsettle] at hsame
  exact isOn_eq_of_switched (congrArg options (Except.ok.inj hsame)).symm

/-! ## Reading with a value that is pending -/

/-- A value that was looked at is not pending any more, and all else is as before. -/
theorem settle_eq_ok (h : p.settle = .ok r) :
    r = { p with options := r.options, pending := .none } := by
  unfold settle at h
  split at h
  · next hpending =>
      cases h
      rw [← hpending]
  · contradiction
  · obtain ⟨o, -, h⟩ := exists_of_bind_eq_ok h
    cases h
    rfl

/-- Once looked at, a value need not be looked at again. -/
theorem settle_settle (h : p.settle = .ok r) : r.settle = .ok r := by
  rw [settle_eq_ok h]
  rfl

theorem plainOnly_of_settle (h : p.settle = .ok r) : r.plainOnly = p.plainOnly := by
  rw [settle_eq_ok h]

theorem readPlain_of_settle (h : p.settle = .ok r) (argument : String) :
    r.readPlain argument = p.readPlain argument := by
  have hfile : r.fileGiven = p.fileGiven := by rw [settle_eq_ok h]
  rw [readPlain, readPlain, h, settle_settle h, hfile]

theorem readLong_of_settle (h : p.settle = .ok r) (name : String) (value : Option String) :
    r.readLong name value = p.readLong name value := by
  rw [readLong, readLong, h, settle_settle h]

theorem readShort_of_settle (h : p.settle = .ok r) (letters : List Char) :
    r.readShort letters = p.readShort letters := by
  unfold readShort
  rw [h, settle_settle h]

/-- Whether the value that is pending is looked at before an argument makes a difference only to the mark
    behind which no option stands. -/
theorem read_of_settle (h : p.settle = .ok r) (hmark : argument ≠ "--" ∨ p.plainOnly = true) :
    r.read argument = p.read argument := by
  unfold read
  rw [plainOnly_of_settle h]
  split_ifs with hplain
  · exact readPlain_of_settle h argument
  split
  · next hargument => exact absurd (String.toList_inj.1 hargument) (hmark.resolve_right hplain)
  · split <;> exact readLong_of_settle h _ _
  · exact readShort_of_settle h _
  · have hr : r.pending = .none := by rw [settle_eq_ok h]
    simp only [hr]
    split
    · next hpending =>
        rw [settle, hpending] at h
        contradiction
    · exact readPlain_of_settle h argument

/-- Behind the mark the value is still pending. -/
theorem settle_of_mark (h : p.settle = .ok r) :
    settle { p with plainOnly := true } = .ok { r with plainOnly := true } := by
  unfold settle at h ⊢
  split at h
  · next hpending =>
      cases h
      simp only [hpending]
  · contradiction
  · next hpending =>
      obtain ⟨o, ho, h⟩ := exists_of_bind_eq_ok h
      cases h
      simp only [hpending, ho]
      rfl

theorem exists_read_of_settle (h : p.settle = .ok r) (hread : r.read argument = .ok q) :
    ∃ p', p.read argument = .ok p' ∧ (p' = q ∨ p'.settle = .ok q) := by
  by_cases hmark : argument = "--" ∧ p.plainOnly = false
  · obtain ⟨rfl, hplain⟩ := hmark
    have hr : r.read "--" = .ok { r with plainOnly := true } := by
      simp only [read, plainOnly_of_settle h, hplain]
      rfl
    rw [hr] at hread
    cases hread
    refine ⟨{ p with plainOnly := true }, ?_, .inr (settle_of_mark h)⟩
    simp only [read, hplain]
    rfl
  · rw [not_and_or, Bool.not_eq_false] at hmark
    rw [read_of_settle h hmark] at hread
    exact ⟨q, hread, .inl rfl⟩

/-! ## With the argument and without it -/

/-- The second reader has met the argument of a switch and the first one has not: for the rest they have read
    the same, but the first one may not have looked at the value that is pending. -/
def Follows (w : Switch) (p q : Progress) : Prop :=
  q.options.isOn w = true ∧ (p = q.switched w false ∨ p.settle = .ok (q.switched w false))

/-- The argument does not come a second time. -/
theorem ne_flag_of_isOn (hread : p.read argument = .ok q) (hon : p.options.isOn w = true) :
    argument ≠ w.flag ∨ p.plainOnly = true := by
  cases hplain : p.plainOnly with
  | true => exact .inr rfl
  | false =>
      refine .inl ?_
      rintro rfl
      rw [read_flag hplain] at hread
      obtain ⟨r, hr, hread⟩ := exists_of_bind_eq_ok hread
      obtain ⟨o, ho, -⟩ := exists_of_bind_eq_ok hread
      rw [turnOn_of_isOn ((isOn_settle hr w).trans hon)] at ho
      contradiction

/-- No argument makes the first reader fall further behind. -/
theorem Follows.read (h : Follows w p q) {q' : Progress} (hread : q.read argument = .ok q') :
    ∃ p', p.read argument = .ok p' ∧ Follows w p' q' := by
  obtain ⟨hon, hbehind⟩ := h
  have hflag := ne_flag_of_isOn hread hon
  have hon' : q'.options.isOn w = true := (isOn_read hread hflag).trans hon
  have hoff : (q.switched w false).read argument = .ok (q'.switched w false) := by
    rw [read_switched hflag, hread]
    rfl
  rcases hbehind with rfl | hsettle
  · exact ⟨_, hoff, hon', .inl rfl⟩
  · obtain ⟨p', hp', hbehind⟩ := exists_read_of_settle hsettle hoff
    exact ⟨p', hp', hon', hbehind⟩

/-- No arguments make the first reader fall further behind. -/
theorem Follows.readAll {arguments : List String} (h : Follows w p q) {q' : Progress}
    (hread : arguments.foldlM Progress.read q = .ok q') :
    ∃ p', arguments.foldlM Progress.read p = .ok p' ∧ Follows w p' q' := by
  induction arguments generalizing p q with
  | nil =>
      cases hread
      exact ⟨p, rfl, h⟩
  | cons argument arguments ih =>
      obtain ⟨q₁, hq₁, hread⟩ := exists_of_bind_eq_ok hread
      obtain ⟨p₁, hp₁, h₁⟩ := h.read hq₁
      obtain ⟨p', hp', h'⟩ := ih h₁ hread
      refine ⟨p', ?_, h'⟩
      rw [List.foldlM_cons, hp₁]
      exact hp'

/-- In the end the first reader looks at the value, too. -/
theorem Follows.settle (h : Follows w p q) (hsettle : q.settle = .ok r) :
    p.settle = .ok (r.switched w false) := by
  have hoff : (q.switched w false).settle = .ok (r.switched w false) := by
    rw [settle_switched, hsettle]
    rfl
  rcases h.2 with rfl | hbehind
  · exact hoff
  · rw [hbehind, ← hoff, settle_settle hbehind]

end Progress

end Options

end CodeBlock
