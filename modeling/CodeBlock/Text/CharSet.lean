set_option autoImplicit false

/-! # Sets of characters

A property of characters is a list of **runs**: `(first, last, step)` stands for the code points
`first`, `first + step`, … up to `last`. Properties that come in long stretches have step 1; the
alphabets that alternate capital and small letters have step 2. A **mapping** of characters is a
list of runs with the distance that each of its members moves. -/

namespace CodeBlock.Text

/-- A set of characters, as runs `(first, last, step)` of code points. -/
abbrev CharSet := List (Nat × Nat × Nat)

/-- Whether a run `(first, last, step)` has the code point `n`. -/
def runContains (n : Nat) (run : Nat × Nat × Nat) : Bool :=
  decide (run.1 ≤ n) && decide (n ≤ run.2.1) && (n - run.1) % run.2.2 == 0

/-- Whether the set has the character `c`. -/
def CharSet.contains (set : CharSet) (c : Char) : Bool :=
  set.any (runContains c.toNat)

/-- A mapping of single characters, as runs `(first, last, step, shift)`: a member of the run moves
    by `shift` code points. -/
abbrev CharShift := List (Nat × Nat × Nat × Int)

/-- The image of a character: the first run that has it decides, and a character in no run stays. -/
def CharShift.apply (shifts : CharShift) (c : Char) : Char :=
  match shifts.find? fun (first, last, step, _) => runContains c.toNat (first, last, step) with
  | some (_, _, _, shift) => Char.ofNat (c.toNat + shift).toNat
  | none => c

end CodeBlock.Text
