import CodeBlock.Proofs.Listing.Writing

set_option autoImplicit false

/-! # Decoding is stable

Whatever the reader accepts, it builds values that can be written down again: a sequence without records,
nested no deeper than the reader goes, in which every bare word reads as one and as nothing else. So the
literal of what was decoded is a listing in its turn, and decoding it gives the same value, but for finite
numbers whose text is a whole number. One such round settles these, and no further round changes anything
(`decode_stable`). -/

namespace CodeBlock

namespace Listing

/-! ## What the reader builds -/

/-- A leaf of the grammar can be read back. In particular a bare word is none of the words with a meaning
    of their own. -/
theorem LeafMeans.isReadable {s : List Char} {leaf : Scalar} (h : LeafMeans s leaf) : leaf.IsReadable := by
  cases h with
  | text => trivial
  | number h => cases h <;> trivial
  | word h =>
      cases h with
      | bare hword hs =>
          rw [Scalar.IsReadable, String.toList_ofList]
          exact ⟨hword, hs⟩
      | _ => trivial

/-- So can the sequence that a listing stands for. -/
theorem ListingMeans.isReadable {levels : Nat} {s : List Char} {v : Value} (h : ListingMeans levels s v) :
    v.IsReadable levels :=
  h.value_induction (fun hleaf => .scalar hleaf.isReadable) .sequence

end Listing

/-! ## Settled values -/

/-- A leaf that is read back once is settled. -/
theorem Scalar.settled_settled (leaf : Scalar) : leaf.settled.settled = leaf.settled := by
  match leaf with
  | .str _ => rfl
  | .int _ => rfl
  | .bool _ => rfl
  | .atom _ => rfl
  | .float .nan => rfl
  | .float (.infinite _) => rfl
  | .float (.finite x) =>
      cases h : Listing.wholeText? (Scalar.float (.finite x)).literalText with
      | some i => simp only [Scalar.settled, h]
      | none => simp only [Scalar.settled, h]

theorem Scalar.IsReadable.settled {leaf : Scalar} (h : leaf.IsReadable) : leaf.settled.IsReadable := by
  match leaf with
  | .str _ => trivial
  | .int _ => trivial
  | .bool _ => trivial
  | .atom _ => exact h
  | .float .nan => trivial
  | .float (.infinite _) => trivial
  | .float (.finite x) =>
      cases h : Listing.wholeText? (Scalar.float (.finite x)).literalText with
      | some i => simp only [Scalar.settled, h, IsReadable]
      | none => simp only [Scalar.settled, h, IsReadable]

namespace Value

/-- A value that is read back once is settled, and can be read back again. -/
theorem IsReadable.settled {levels : Nat} {v : Value} (h : v.IsReadable levels) :
    v.settled.IsReadable levels ∧ v.settled.settled = v.settled := by
  induction h with
  | scalar hleaf =>
      rw [Value.settled, Value.settled, Scalar.settled_settled]
      exact ⟨.scalar hleaf.settled, rfl⟩
  | sequence _ ih =>
      rw [settled_sequence, settled_sequence, List.map_map]
      refine ⟨.sequence ?_, congrArg _ (List.map_congr_left fun item hitem => (ih item hitem).2)⟩
      simpa using fun item hitem => (ih item hitem).1

end Value

/-! ## Decoding what was decoded -/

/-- The literal of a sequence that can be read back is a listing of what is read back. -/
theorem Listing.listingMeans_literalText {levels : Nat} {items : List Value}
    (h : (Value.sequence items).IsReadable levels) :
    ListingMeans levels (Value.sequence items).literalText (Value.sequence items).settled := by
  have hitem := itemMeans_literalText h
  rw [Value.settled_sequence] at hitem ⊢
  exact hitem.listingMeans

/-- All that is decoded is a sequence without records, nested at most 512 levels deep, whose bare words are
    words and none of those with a meaning of their own. Its literal is decoded to the same sequence, with
    each finite number whose text is a whole number of 64 bits as that number; and the literal of that
    sequence to just that sequence. -/
theorem decode_stable {output : String} {v : Value} (h : decode output = .structured v) :
    (∃ items, v = .sequence items) ∧ v.IsReadable 512 ∧
      decode v.literal = .structured v.settled ∧ decode v.settled.literal = .structured v.settled := by
  have hread : ∀ {items : List Value}, (Value.sequence items).IsReadable 512 →
      decode (Value.sequence items).literal = .structured (Value.sequence items).settled := by
    intro items h
    simpa [Value.literal] using
      @decode_of_listingMeans [] _ [] _ (by simp) (by simp) (Listing.listingMeans_literalText h)
  have hmeans := listingMeans_of_decode h
  obtain ⟨-, items, -, rfl, -⟩ := (Listing.listingMeans_succ 511 _ _).1 hmeans
  have hreadable : (Value.sequence items).IsReadable 512 := hmeans.isReadable
  obtain ⟨hsettled, heq⟩ := hreadable.settled
  refine ⟨⟨items, rfl⟩, hreadable, hread hreadable, ?_⟩
  rw [Value.settled_sequence] at hsettled heq ⊢
  rw [hread hsettled, heq]

/-- The zero below zero is whole, but does not look so at first. -/
theorem decode_stable_spelled :
    ∃ v : Value, decode "[$x,'a\\u0062'\t[ -NaN ] -.0]\n" = .structured v ∧
      v.literal = "[$x, \"ab\", [NaN], -0]" ∧ v.settled.literal = "[$x, \"ab\", [NaN], 0]" ∧
      decode v.literal = .structured v.settled := by
  have hliterals : (Listing.ofText? (Text.trim "[$x,'a\\u0062'\t[ -NaN ] -.0]\n".toList)).map
      (fun v => (v.literal, v.settled.literal)) =
        some ("[$x, \"ab\", [NaN], -0]", "[$x, \"ab\", [NaN], 0]") := by
    decide +kernel
  obtain ⟨v, hread, hliteral⟩ := Option.map_eq_some_iff.1 hliterals
  obtain ⟨hbefore, hafter⟩ := Prod.mk.inj hliteral
  have hdecode : decode "[$x,'a\\u0062'\t[ -NaN ] -.0]\n" = .structured v := by
    rw [decode, hread]
  exact ⟨v, hdecode, hbefore, hafter, (decode_stable hdecode).2.2.1⟩

end CodeBlock
