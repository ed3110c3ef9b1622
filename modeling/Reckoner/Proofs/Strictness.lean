import Reckoner.Proofs.Decoding

/-! Where decoding stops and why. After the characters that a stream yields there is a part of its
bytes at whose start no character is encoded. That part alone decides the answer (`Utf8.Stops`): the
end if nothing is left, a truncation if its first byte asks for more bytes than there are, and in
all other cases the bytes are malformed. -/
namespace Reckoner

namespace Utf8

/-- How many bytes the first byte of a longer character asks for. -/
def demand (first : UInt8) : Nat :=
  if first ≤ 0xDF then 1 else if first ≤ 0xEF then 2 else 3

/-- The first byte asks for more bytes than there are after it. -/
def CutShort : List UInt8 → Prop
  | [] => False
  | first :: rest => 0xC0 ≤ first ∧ first ≤ 0xF7 ∧ rest.length < demand first

/-- The answer to bytes at whose start no character is encoded. -/
inductive Stops : List UInt8 → Reading → Prop where
  | ended : Stops [] .ended
  | truncated {left : List UInt8} (short : CutShort left) : Stops left (.failed .truncated)
  | malformed {left : List UInt8} (nonempty : left ≠ []) (enough : ¬CutShort left) :
      Stops left (.failed .malformed)

theorem cutShort_cons_iff {first : UInt8} {rest : List UInt8} :
    CutShort (first :: rest) ↔ ∃ lead, lead? first = some lead ∧ rest.length < lead.following := by
  simp only [CutShort, demand, lead?_eq_some_iff, UInt8.le_iff_toNat_le, UInt8.reduceToNat]
  constructor
  · rintro ⟨low, high, short⟩
    split at short
    · exact ⟨_, .inr (.inl ⟨low, by omega, rfl⟩), short⟩
    split at short
    · exact ⟨_, .inr (.inr (.inl ⟨by omega, by omega, rfl⟩)), short⟩
    · exact ⟨_, .inr (.inr (.inr ⟨by omega, by omega, rfl⟩)), short⟩
  · rintro ⟨lead, ⟨_, rfl⟩ | ⟨low, high, rfl⟩ | ⟨low, high, rfl⟩ | ⟨low, high, rfl⟩, short⟩
    · exact absurd short (Nat.not_lt_zero _)
    all_goals
      refine ⟨by omega, by omega, ?_⟩
      split
      · omega
      · split <;> omega

theorem Reads.stops {held left : List UInt8} {last : Reading} (h : Reads held last left)
    (stops : ∀ c, last ≠ .char c) : Stops held last := by
  cases h with
  | ended => exact .ended
  | astray leads =>
    refine .malformed (List.cons_ne_nil _ _) ?_
    rw [cutShort_cons_iff]
    rintro ⟨lead, also, _⟩
    simp [leads] at also
  | short leads short => exact .truncated (cutShort_cons_iff.mpr ⟨_, leads, short⟩)
  | broken leads length decoded =>
    refine .malformed (List.cons_ne_nil _ _) ?_
    rw [List.cons_append, cutShort_cons_iff]
    rintro ⟨lead, also, less⟩
    obtain rfl := Option.some.inj (leads.symm.trans also)
    rw [List.length_append] at less
    omega
  | char => exact absurd rfl (stops _)

theorem Stops.cases {left : List UInt8} {last : Reading} (h : Stops left last) :
    last = .ended ∨ last = .failed .truncated ∨ last = .failed .malformed := by
  cases h <;> simp

/-- Bytes are valid as a whole if nothing of them is left after their longest valid part. -/
theorem Longest.isValidUTF8_iff {text : String} {left : List UInt8}
    (h : Longest (text.toUTF8.data.toList ++ left) text) :
    (text.toUTF8.data.toList ++ left).toByteArray.IsValidUTF8 ↔ left = [] := by
  constructor
  · intro valid
    have short := (h.longest _ List.prefix_rfl valid).length_le
    rw [List.length_append] at short
    exact List.length_eq_zero_iff.mp (by omega)
  · rintro rfl
    rw [List.append_nil]
    exact (Utf8.isValidUTF8_iff _).mpr ⟨text.toList, encode_eq text⟩

end Utf8

namespace Stream

variable {s : Stream} {held : List UInt8}

end Stream

end Reckoner
