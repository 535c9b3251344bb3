import CodeBlock.Regex.Basic

set_option autoImplicit false

/-! # Parts of texts

Parts of a text are found and replaced. Characters are counted from one. -/

namespace CodeBlock.Shell.Records

/-- What a part of a text is replaced by: an ampersand stands for the part, unless the number of
    backslashes before it is odd, and of those backslashes every second one goes. `slashes` is the number of
    backslashes that were read last. -/
def replacement (part : List Char) (slashes : Nat) : List Char → List Char
  | [] => List.replicate slashes '\\'
  | '\\' :: rest => replacement part (slashes + 1) rest
  | '&' :: rest =>
      List.replicate (slashes / 2) '\\' ++ (if slashes % 2 = 0 then part else ['&']) ++
        replacement part 0 rest
  | c :: rest => List.replicate slashes '\\' ++ c :: replacement part 0 rest

/-- A text with the parts that fit replaced, at most `limit` of them, and their number. A part without
    characters does not count right behind another part. -/
def substitute (r : Regex) (new : List Char) : Nat → Bool → Nat → Cursor → List Char × Nat
  | 0, _, _, c => (c.rest, 0)
  | _ + 1, _, 0, c => (c.rest, 0)
  | fuel + 1, isBehind, limit + 1, c =>
      match r.find? c with
      | none => (c.rest, 0)
      | some f =>
          let before := c.rest.take (f.start.offset - c.offset)
          if f.start.offset < f.stop.offset then
            let (text, count) := substitute r new fuel true limit f.stop
            (before ++ replacement f.text 0 new ++ text, count + 1)
          else
            let next := f.stop.rest.take 1
            let counts := !(isBehind && f.start.offset == c.offset)
            if next.isEmpty then
              (before ++ (if counts then replacement [] 0 new else []), if counts then 1 else 0)
            else
              let (text, count) := substitute r new fuel false (if counts then limit else limit + 1)
                (f.stop.advance 1)
              if counts then (before ++ replacement [] 0 new ++ next ++ text, count + 1)
              else (before ++ next ++ text, count)

/-- A part of a text: `from` is the number of its first character, which is counted from one. -/
def partOf (s : List Char) (start : Int) (length : Option Int) : List Char :=
  match length with
  | none => s.drop (start - 1).toNat
  | some length =>
      let length := if start < 1 then length - start else length
      (s.drop (start - 1).toNat).take length.toNat

/-- Where a text stands in another one, counted from one; zero if it does not. -/
def placeOf (part : List Char) : Nat → List Char → Nat
  | n, s =>
      if part.isPrefixOf s then n
      else
        match s with
        | [] => 0
        | _ :: rest => placeOf part (n + 1) rest

end CodeBlock.Shell.Records
