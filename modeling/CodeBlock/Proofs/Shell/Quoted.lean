import CodeBlock.Proofs.Shell.Expansion
import CodeBlock.Proofs.Shell.Words
import CodeBlock.Proofs.Text.Classes
import CodeBlock.Shell.Runner

set_option autoImplicit false

/-! # A quoted path as the first word

A path is quoted so that a shell takes it for one word, whatever is in it and whatever comes behind it. That
is said here twice: of the rules of quoting, for a reader that stops where the first word ends, and of the
shell itself, which reads a word in parts, expands them and cuts what comes of them into fields.

Both proofs follow the text from one single quote in it to the next. Up to there everything is between quotes;
the quote itself is left out of them and escaped; and what is behind it is a quoted text again. The shell sees
bytes, so it matters, too, that no other character has the byte of a quote in it. -/

namespace CodeBlock

namespace Text

/-- Replacing a character goes with rewriting characters, if that character stays and others do not become
    it. -/
theorem flatMap_replaceChar {c : Char} {f : Char → List Char} (hc : f c = [c]) {replacement : List Char}
    (hreplacement : replacement.flatMap f = replacement) (hother : ∀ d, d ≠ c → c ∉ f d)
    (s : List Char) :
    (replaceChar c replacement s).flatMap f = replaceChar c replacement (s.flatMap f) := by
  induction s with
  | nil => rfl
  | cons d s ih =>
      rw [replaceChar, List.flatMap_append, ih, List.flatMap_cons, replaceChar_append]
      by_cases hd : d = c
      · rw [if_pos hd, hreplacement, hd, hc]
        simp [replaceChar]
      · rw [if_neg hd, replaceChar_eq_self (hother d hd), List.flatMap_singleton]

end Text

namespace Shell

/-! ## The first word -/

/-- What is left of a word, and what is left unread: the word ends at the end of the text or where a character
    ends it that nothing quotes. The first character is quoted as given. -/
def restOfWord : Quoting → List Char → Option (List Char × List Char)
  | .word, [] => some ([], [])
  | _, [] => none
  | q, c :: rest =>
      if q = .word ∧ endsWord c = true then some ([], c :: rest)
      else do
        let (letters, q') ← q.next c
        let (word, unread) ← restOfWord q' rest
        return (letters ++ word, unread)

/-- The first word of a text, and what is left unread. -/
def firstWord? (text : String) : Option (String × String) :=
  (restOfWord .between text.toList).map fun (word, unread) => (String.ofList word, String.ofList unread)

theorem toNat_lt_of_endsWord (c : Char) (h : endsWord c = true) : c.toNat < 128 := by
  simp only [endsWord, Bool.or_eq_true, beq_iff_eq] at h
  rcases h with ((((((((rfl | rfl) | rfl) | rfl) | rfl) | rfl) | rfl) | rfl) | rfl) | rfl <;> decide

theorem restOfWord_of_endsWord {following : List Char} (h : ∀ c ∈ following.head?, endsWord c = true) :
    restOfWord .word following = some ([], following) := by
  cases following with
  | nil => rfl
  | cons c rest => rw [restOfWord, if_pos ⟨rfl, h c rfl⟩]

/-- What is read of a character goes in front of the rest of the word. -/
theorem restOfWord_cons {q q' : Quoting} {c : Char} {letters : List Char}
    (h : q.next c = some (letters, q')) (hstays : ¬(q = .word ∧ endsWord c = true)) (rest : List Char) :
    restOfWord q (c :: rest) =
      (restOfWord q' rest).map fun (word, unread) => (letters ++ word, unread) := by
  cases hrest : restOfWord q' rest <;> simp [restOfWord, h, hrest, hstays]

/-- What is read of a text in which no word ends goes in front of the rest of the word. -/
theorem Quoting.Passes.restOfWord_append {q q' : Quoting} {s letters : List Char}
    (h : Quoting.Passes q s letters q') (rest : List Char) :
    restOfWord q (s ++ rest) =
      (restOfWord q' rest).map fun (more, unread) => (letters ++ more, unread) := by
  induction h with
  | nil => simp
  | cons hnext hstays _ ih =>
      rw [List.cons_append, restOfWord_cons hnext hstays, ih]
      simp [Function.comp_def]

theorem restOfWord_quotedWord_append (s : List Char) {following : List Char}
    (h : ∀ c ∈ following.head?, endsWord c = true) :
    restOfWord .between (quotedWord s ++ following) = some (s, following) := by
  rw [(Quoting.passes_quotedWord (.inl rfl) s).restOfWord_append, restOfWord_of_endsWord h]
  simp

/-! ## Reading a word -/

namespace Reading

/-- A step that succeeds is followed by the next one. -/
theorem bind_of_ok {α β : Type} {step : Reading α} {next : α → Reading β} {source after : Source}
    {a : α} (h : step source = .ok (a, after)) : (step >>= next) source = next a after := by
  change Except.bind (step source) _ = _
  rw [h]
  rfl

/-- To look at a character that does not start a joined line end changes nothing. -/
theorem peek?_of_skipJoints {s : List Char} (h : skipJoints s = (0, s)) (source : Source) :
    peek? { source with rest := s } = .ok (s.head?, { source with rest := s }) := by
  simp [peek?, h]

theorem head?_eq (source : Source) : head? source = .ok (source.rest.head?, source) := rfl

/-- To go past a character changes nothing else but the line. -/
theorem exists_drop_cons (source : Source) (c : Char) (s : List Char) :
    ∃ line, drop { source with rest := c :: s } = .ok ((), { source with rest := s, line := line }) :=
  ⟨_, rfl⟩

/-- A text is read up to the quote that ends it. -/
theorem exists_takeSingle_append {text : List Char} (h : '\'' ∉ text) (source : Source) (rest : List Char) :
    ∃ line, takeSingle { source with rest := text ++ '\'' :: rest } =
      .ok (text, { source with rest := rest, line := line }) :=
  ⟨source.line + text.count '\n', by simp [takeSingle, untilQuote_append h]⟩

end Reading

/-- Whether the shell reads a text as a word and leaves the rest of it. -/
def Reads (fuel : Nat) (s : List Char) (word : Word) (rest : List Char) : Prop :=
  ∀ source : Source, ∃ line, readParts false (.bare false) fuel { source with rest := s } =
    .ok (word, { source with rest := rest, line := line })

theorem Reads.readWord_eq {s : List Char} {word : Word} {rest : List Char}
    (h : Reads (readingFuel s) s word rest) : readWord s = .ok (word, rest) := by
  obtain ⟨line, hread⟩ := h (.ofText [] s)
  have hread : readParts false (.bare false) (readingFuel s) (.ofText [] s) = .ok (word, _) := hread
  rw [readWord, hread]

theorem reads_nil_of_endsWord {following : List Char} (h : ∀ c ∈ following.head?, endsWord c = true)
    (fuel : Nat) : Reads fuel following [] following := by
  intro source
  refine ⟨source.line, ?_⟩
  cases fuel with
  | zero => rfl
  | succ fuel =>
      cases following with
      | nil => rfl
      | cons c rest =>
          have hc : endsWord c = true := h c rfl
          have hne : c ≠ '\\' := by rintro rfl; exact absurd hc (by decide)
          rw [readParts, Reading.bind_of_ok (Reading.peek?_of_skipJoints (skipJoints_of_ne hne) source)]
          simp only [List.head?_cons, hc, and_self, if_true]
          rfl

theorem Reads.single {fuel : Nat} {text s rest : List Char} {word : Word} (htext : '\'' ∉ text)
    (h : Reads fuel s word rest) :
    Reads (fuel + 1) ('\'' :: (text ++ '\'' :: s)) (.quotes :: (text.map .quoted ++ word)) rest := by
  intro source
  have hpeek := Reading.peek?_of_skipJoints (s := '\'' :: (text ++ '\'' :: s)) rfl source
  obtain ⟨line, hdrop⟩ := Reading.exists_drop_cons source '\'' (text ++ '\'' :: s)
  obtain ⟨line, hsingle⟩ := Reading.exists_takeSingle_append htext { source with line := line } s
  obtain ⟨line, hword⟩ := h { source with line := line }
  refine ⟨line, ?_⟩
  rw [readParts, Reading.bind_of_ok hpeek]
  change (Reading.drop >>= fun _ => Reading.takeSingle >>= _) _ = _
  rw [Reading.bind_of_ok hdrop, Reading.bind_of_ok hsingle, Reading.bind_of_ok hword]
  rfl

/-- A character behind a backslash is read as it stands, unless it is the end of a line. -/
theorem Reads.escaped {fuel : Nat} {c : Char} {s rest : List Char} {word : Word} (hc : c ≠ '\n')
    (h : Reads fuel s word rest) :
    Reads (fuel + 1) ('\\' :: c :: s) (.quoted c :: word) rest := by
  intro source
  have hjoints : skipJoints ('\\' :: c :: s) = (0, '\\' :: c :: s) := by simp [skipJoints, hc]
  obtain ⟨line, hbackslash⟩ := Reading.exists_drop_cons source '\\' (c :: s)
  obtain ⟨line', hdrop⟩ := Reading.exists_drop_cons { source with line := line } c s
  obtain ⟨line, hword⟩ := h { source with line := line' }
  refine ⟨line, ?_⟩
  rw [readParts, Reading.bind_of_ok (Reading.peek?_of_skipJoints hjoints source)]
  change (Reading.drop >>= fun _ => Reading.head? >>= _) _ = _
  rw [Reading.bind_of_ok hbackslash, Reading.bind_of_ok (Reading.head?_eq _)]
  change (Reading.drop >>= _) _ = _
  rw [Reading.bind_of_ok hdrop, Reading.bind_of_ok hword]
  rfl

/-! ## Reading a quoted text -/

/-- Whether a word starts with quotes and has nothing in it that is not quoted. -/
structure IsQuoted (word : Word) : Prop where
  head : word.head? = some .quotes
  all : ∀ segment ∈ word, segment = .quotes ∨ ∃ c, segment = .quoted c

theorem isQuoted_cons (text : List Char) {word : Word}
    (h : ∀ segment ∈ word, segment = .quotes ∨ ∃ c, segment = .quoted c) :
    IsQuoted (.quotes :: (text.map .quoted ++ word)) := by
  refine ⟨rfl, ?_⟩
  simp only [List.mem_cons, List.mem_append, List.mem_map]
  rintro segment (rfl | ⟨c, -, rfl⟩ | hmem)
  · exact .inl rfl
  · exact .inr ⟨c, rfl⟩
  · exact h segment hmem

theorem ownText_quotes_cons (text : List Char) (word : Word) :
    ownText (.quotes :: (text.map .quoted ++ word)) = text ++ ownText word := by
  change ownText (text.map .quoted ++ word) = _
  induction text with
  | nil => rfl
  | cons c text ih => rw [List.map_cons, List.cons_append, ownText, ih, List.cons_append]

theorem exists_reads_single_append {following : List Char} (h : ∀ c ∈ following.head?, endsWord c = true)
    {before : List Char} (hbefore : '\'' ∉ before) (s : List Char) {fuel : Nat}
    (hfuel : 2 * s.length < fuel) :
    ∃ word, Reads fuel ('\'' :: (before ++ (Text.replaceChar '\'' ['\'', '\\', '\'', '\''] s ++
        '\'' :: following))) word following ∧
      IsQuoted word ∧ ownText word = before ++ s := by
  induction s generalizing before fuel with
  | nil =>
      obtain ⟨fuel, rfl⟩ := Nat.exists_eq_succ_of_ne_zero (Nat.ne_of_gt hfuel)
      refine ⟨_, (reads_nil_of_endsWord h fuel).single hbefore, isQuoted_cons before (by simp), ?_⟩
      rw [ownText_quotes_cons, ownText]
  | cons c s ih =>
      rw [List.length_cons] at hfuel
      by_cases hc : c = '\''
      · -- the quotes are left, the quote is escaped, and the quotes start again
        subst hc
        obtain ⟨fuel, rfl⟩ := Nat.exists_eq_add_of_le' (show 2 ≤ fuel by omega)
        have hfuel : 2 * s.length < fuel := by omega
        obtain ⟨word, hreads, hquoted, hown⟩ := ih List.not_mem_nil hfuel
        refine ⟨_, (hreads.escaped (by decide)).single hbefore, isQuoted_cons before ?_, ?_⟩
        · exact List.forall_mem_cons.2 ⟨.inr ⟨_, rfl⟩, hquoted.all⟩
        · rw [ownText_quotes_cons, ownText, hown, List.nil_append]
      · have hlonger : '\'' ∉ before ++ [c] := by simp [hbefore, Ne.symm hc]
        simpa [Text.replaceChar, hc] using ih hlonger (by omega : 2 * s.length < fuel)

/-- Quoting leaves nothing out. -/
theorem length_le_length_quotedWord (s : List Char) : s.length ≤ (quotedWord s).length := by
  rw [quotedWord, List.length_append, List.length_cons, List.length_singleton]
  induction s with
  | nil => simp
  | cons c s ih =>
      rw [Text.replaceChar, List.length_cons, List.length_append]
      split <;> simp only [List.length_cons, List.length_nil] at * <;> omega

theorem exists_readWord_quotedWord_append (s : List Char) {following : List Char}
    (h : ∀ c ∈ following.head?, endsWord c = true) :
    ∃ word, readWord (quotedWord s ++ following) = .ok (word, following) ∧
      IsQuoted word ∧ ownText word = s := by
  have hlength := length_le_length_quotedWord s
  have hfuel : 2 * s.length < readingFuel (quotedWord s ++ following) := by
    rw [readingFuel, List.length_append]
    omega
  obtain ⟨word, hreads, hquoted, hown⟩ := exists_reads_single_append h List.not_mem_nil s hfuel
  have htext : quotedWord s ++ following =
      '\'' :: ([] ++ (Text.replaceChar '\'' ['\'', '\\', '\'', '\''] s ++ '\'' :: following)) := by
    simp [quotedWord]
  rw [← htext] at hreads
  exact ⟨word, hreads.readWord_eq, hquoted, hown⟩

/-! ## What a quoted word stands for -/

theorem cutFields_expandSegments (substitute : Substitution) {word : Word} {m : Machine}
    (hword : ∀ segment ∈ word, segment = .quotes ∨ ∃ c, segment = .quoted c) (hm : m.goesOn = true) :
    ∃ letters, expandSegments substitute true word m = (letters, m) ∧
      ∀ separators field afterBlank, cutFields separators (some field) afterBlank letters =
        [field.reverse ++ (ownText word).map (·, true)] := by
  induction word with
  | nil => exact ⟨[], by simp [expandSegments], by simp [cutFields, ownText]⟩
  | cons segment word ih =>
      rw [List.forall_mem_cons] at hword
      obtain ⟨letters, hexpand, hcut⟩ := ih hword.2
      rcases hword.1 with rfl | ⟨c, rfl⟩
      · refine ⟨.something :: letters, by simp [expandSegments, expandSegment, hm, hexpand], ?_⟩
        simp [cutFields, hcut, ownText]
      · refine ⟨.char c true :: letters, by simp [expandSegments, expandSegment, hm, hexpand], ?_⟩
        simp [cutFields, hcut, ownText]

/-- A quoted word stands for its characters, in whatever state the shell is. -/
theorem IsQuoted.expandFields_eq {word : Word} (h : IsQuoted word) (substitute : Substitution) {m : Machine}
    (hm : m.goesOn = true) : expandFields substitute word m = ([ownText word], m) := by
  obtain ⟨word, rfl⟩ := List.head?_eq_some_iff.1 h.head
  have hword := h.all
  rw [List.forall_mem_cons] at hword
  obtain ⟨letters, hexpand, hcut⟩ := cutFields_expandSegments substitute hword.2 hm
  have hhome : withHome (· == '/') (.quotes :: word) = .quotes :: word := rfl
  simp only [expandFields, expand, hhome, expandSegments, expandSegment, hm, hexpand]
  simp [cutFields, hcut, namesLike, isPattern_map_true, ownText, Function.comp_def]

/-! ## The shell's text of a path -/

namespace Machine

/-- An ASCII character is its byte. -/
theorem textOf_utf8EncodeChar_of_lt {c : Char} (h : c.toNat < 128) :
    textOf (String.utf8EncodeChar c) = [c] := by
  have hbyte : (UInt8.ofNat c.val.toNat).toNat = c.toNat :=
    UInt8.toNat_ofNat_of_lt' (Nat.lt_trans h (by decide))
  have hsmall : c.val.toNat ≤ 127 := Nat.le_of_lt_succ h
  rw [String.utf8EncodeChar, if_pos hsmall, textOf, List.map_singleton, hbyte, Char.ofNat_toNat]

/-- The bytes of another character are no ASCII characters. -/
theorem le_of_mem_utf8EncodeChar {c : Char} (h : 128 ≤ c.toNat) :
    ∀ b ∈ String.utf8EncodeChar c, 128 ≤ b.toNat := by
  have hbyte : ∀ {n}, 128 ≤ n → n < 256 → 128 ≤ (UInt8.ofNat n).toNat := by
    intro n hlow hhigh
    rwa [UInt8.toNat_ofNat_of_lt' hhigh]
  fun_cases String.utf8EncodeChar c with
  | case1 v hv => exact absurd hv (Nat.not_le.2 h)
  | case2 v =>
      simp only [List.forall_mem_cons]
      exact ⟨hbyte (by omega) (by omega), hbyte (by omega) (by omega), by simp⟩
  | case3 v =>
      simp only [List.forall_mem_cons]
      exact ⟨hbyte (by omega) (by omega), hbyte (by omega) (by omega), hbyte (by omega) (by omega),
        by simp⟩
  | case4 v =>
      simp only [List.forall_mem_cons]
      exact ⟨hbyte (by omega) (by omega), hbyte (by omega) (by omega), hbyte (by omega) (by omega),
        hbyte (by omega) (by omega), by simp⟩

/-- A byte that is no ASCII character is not the quote, for the shell either. -/
theorem notMem_textOf_of_le {bytes : List UInt8} {c : Char} (hc : c.toNat < 128)
    (h : ∀ b ∈ bytes, 128 ≤ b.toNat) : c ∉ textOf bytes := by
  intro hmem
  obtain ⟨b, hb, rfl⟩ := List.mem_map.1 hmem
  have hlow := h b hb
  have hvalid : b.toNat.isValidChar := .inl (Nat.lt_trans b.toNat_lt (by decide))
  rw [Text.toNat_ofNat hvalid] at hc
  omega

/-- The shell's text is made character by character. -/
theorem inside_eq_flatMap (s : String) :
    inside s = s.toList.flatMap fun c => textOf (String.utf8EncodeChar c) := by
  rw [inside, textOf, Text.toBytes, List.map_flatMap]
  rfl

theorem inside_append (s t : String) : inside (s ++ t) = inside s ++ inside t := by
  simp only [inside_eq_flatMap, String.toList_append, List.flatMap_append]

/-- What a text starts with is what the shell's text starts with, if it is an ASCII character. -/
theorem forall_mem_head?_inside {P : Char → Prop} (hascii : ∀ c, P c → c.toNat < 128) {s : String}
    (h : ∀ c ∈ s.toList.head?, P c) : ∀ c ∈ (inside s).head?, P c := by
  rw [inside_eq_flatMap]
  cases hs : s.toList with
  | nil => simp
  | cons c rest =>
      have hc : P c := h c (by rw [hs]; rfl)
      rw [List.flatMap_cons, textOf_utf8EncodeChar_of_lt (hascii c hc)]
      rintro d ⟨⟩
      exact hc

theorem inside_quotePath (path : String) : inside (quotePath path) = quotedWord (inside path) := by
  have hquote := textOf_utf8EncodeChar_of_lt (c := '\'') (by decide)
  have hbackslash := textOf_utf8EncodeChar_of_lt (c := '\\') (by decide)
  have hother : ∀ d, d ≠ '\'' → '\'' ∉ textOf (String.utf8EncodeChar d) := by
    intro d hd hmem
    by_cases hascii : d.toNat < 128
    · rw [textOf_utf8EncodeChar_of_lt hascii, List.mem_singleton] at hmem
      exact hd hmem.symm
    · exact notMem_textOf_of_le (by decide) (le_of_mem_utf8EncodeChar (Nat.le_of_not_lt hascii)) hmem
  have hescaped : ['\'', '\\', '\'', '\''].flatMap (fun d => textOf (String.utf8EncodeChar d)) =
      ['\'', '\\', '\'', '\''] := by
    simp [hquote, hbackslash]
  have hreplace := Text.flatMap_replaceChar hquote hescaped hother path.toList
  rw [inside_eq_flatMap, inside_eq_flatMap, quotePath, String.toList_ofList, quotedWord, quotedWord,
    List.flatMap_append, List.flatMap_cons, hreplace, hquote]
  simp [hquote]

end Machine

end Shell

/-! ## Quoted paths -/

/-- A quoted path with nothing behind it, or something that starts with a character that ends words, is read
    first as one word and the rest is left: by the rules of quoting that word is the path, and the shell, too,
    reads a word that stands for the path alone. -/
theorem firstWord?_quotePath (path following : String)
    (h : ∀ c ∈ following.toList.head?, Shell.endsWord c = true) :
    Shell.firstWord? (quotePath path ++ following) = some (path, following) ∧
      ∃ word, Shell.readWord (Shell.Machine.inside (quotePath path ++ following)) =
          .ok (word, Shell.Machine.inside following) ∧
        ∀ substitute (m : Shell.Machine), m.goesOn = true →
          Shell.expandFields substitute word m = ([Shell.Machine.inside path], m) := by
  constructor
  · rw [Shell.firstWord?, String.toList_append, quotePath, String.toList_ofList,
      Shell.restOfWord_quotedWord_append path.toList h]
    simp
  · have hinside := Shell.Machine.forall_mem_head?_inside Shell.toNat_lt_of_endsWord h
    obtain ⟨word, hread, hquoted, hown⟩ :=
      Shell.exists_readWord_quotedWord_append (Shell.Machine.inside path) hinside
    refine ⟨word, ?_, fun substitute m hm => ?_⟩
    · rw [Shell.Machine.inside_append, Shell.Machine.inside_quotePath, hread]
    · rw [hquoted.expandFields_eq substitute hm, hown]

/-- A path with quotes at both ends and in the middle, and with more that has a meaning for the shell. -/
theorem firstWord?_quotePath_quotes :
    quotePath "'it's\n$\\''" = "''\\''it'\\''s\n$\\'\\'''\\'''" ∧
      Shell.firstWord? (quotePath "'it's\n$\\''" ++ " --quiet") = some ("'it's\n$\\''", " --quiet") ∧
      ∃ word, Shell.readWord (Shell.Machine.inside (quotePath "'it's\n$\\''" ++ " --quiet")) =
          .ok (word, Shell.Machine.inside " --quiet") ∧
        ∀ substitute (m : Shell.Machine), m.goesOn = true →
          Shell.expandFields substitute word m = ([Shell.Machine.inside "'it's\n$\\''"], m) :=
  ⟨by decide +kernel, firstWord?_quotePath "'it's\n$\\''" " --quiet" (by simp [Shell.endsWord])⟩

end CodeBlock
