import CodeBlock.Shell.Builtin.Basic

set_option autoImplicit false

/-! # Reading a line into variables

A line is cut at separators into as many fields as there are variables. The last field gets what is left,
without blanks at its end; a single separator at the end of all belongs to the field before it. -/

namespace CodeBlock.Shell.Builtin

/-- The line that a text starts with, what follows it, and whether it had an end. A backslash keeps
    the next character and joins lines, unless `raw`; the characters that it kept are marked. -/
def lineOf (raw : Bool) : List Char → List (Char × Bool) × List Char × Bool
  | [] => ([], [], false)
  | '\n' :: rest => ([], rest, true)
  | '\\' :: c :: rest =>
      if raw then
        let (line, rest, ended) := lineOf raw (c :: rest)
        (('\\', false) :: line, rest, ended)
      else
        let (line, rest, ended) := lineOf raw rest
        (if c = '\n' then line else (c, true) :: line, rest, ended)
  | ['\\'] => (if raw then [('\\', false)] else [], [], false)
  | c :: rest =>
      let (line, rest, ended) := lineOf raw rest
      (if c = '\x00' then line else (c, false) :: line, rest, ended)

/-- A line that is being cut into fields. -/
structure Cutting where
  /-- The fields before, the last one first. -/
  fields : List (List Char)
  /-- The field that is read, last character first. -/
  field : List Char
  /-- How many fields may still be ended. -/
  left : Nat
  /-- Whether a blank has ended the field before. -/
  afterBlank : Bool
  /-- The field without what would be cut off its end. -/
  kept : Option (List Char)

namespace Cutting

/-- Takes a character that belongs to the field. -/
def add (s : Cutting) (c : Char) : Cutting := { s with field := c :: s.field }

/-- Takes a character, which may be kept from its meaning. -/
def step (separators : List Char) (s : Cutting) (entry : Char × Bool) : Cutting :=
  let (c, isKept) := entry
  let isSeparator := separators.contains c
  let isBlank := isSeparator && (c == ' ' || c == '\t' || c == '\n')
  if isKept then { s.add c with afterBlank := false }
  else if s.left = 0 then
    if isBlank then { s.add c with kept := s.kept.or (some s.field) }
    else
      { s.add c with
        kept := if isSeparator && s.afterBlank then s.kept else none
        afterBlank := false }
  else if s.afterBlank && isSeparator then { s with afterBlank := isBlank }
  else if isSeparator then
    if s.field.isEmpty && isBlank then s
    else if s.left = 1 then
      { s.add c with left := 0, kept := some s.field, afterBlank := isBlank }
    else
      { s with
        fields := s.field.reverse :: s.fields
        field := []
        left := s.left - 1
        afterBlank := isBlank }
  else { s.add c with afterBlank := false }

/-- The fields of what was taken. -/
def finish (s : Cutting) : List (List Char) :=
  let last := (s.kept.getD s.field).reverse
  s.fields.reverse ++ (if s.field.isEmpty then [] else [last])

end Cutting

/-- Cuts a line into at most so many fields. -/
def fieldsOf (separators : List Char) (count : Nat) (line : List (Char × Bool)) : List (List Char) :=
  (line.foldl (Cutting.step separators) ⟨[], [], count, false, none⟩).finish

/-- Sets variables to fields, and those for which there are none to nothing. -/
def assignFields : List (List Char) → List (List Char) → Machine → Machine
  | [], _, m => m
  | name :: names, fields, m =>
      let m := m.assign (String.ofList name) (fields.headD [])
      if m.goesOn then assignFields names fields.tail m else m

/-- Reads a line into variables. -/
def read : Builtin := withOptions [('p', true), ('r', false)] fun options names m =>
  if names.isEmpty then m.abort "arg count".toList
  else
    let (line, rest, ended) := lineOf (options.any (·.1 == 'r')) m.input
    let m := m.leave rest
    let m := assignFields names (fieldsOf m.separators names.length line) m
    if m.goesOn then m.withStatus (if ended then 0 else 1) else m

end CodeBlock.Shell.Builtin
