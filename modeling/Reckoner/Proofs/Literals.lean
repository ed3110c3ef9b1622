import Reckoner.Proofs.Stopping

/-! Integer literals. Reading gives up on a literal as soon as it exceeds the greatest word, and the
same happens if a word is built up digit by digit and every multiplication and addition is checked
(`Word.foldl_append?_some`): leading zeros are harmless, and no later digit makes up for a step that
did not fit. So a literal has its decimal value or is refused, and is taken whole in both cases.
Where it ends can be told only as far as positions go (`integer_exact_far`). -/
namespace Reckoner

namespace Word

/-- Ten times what has been read, and then the digit added. Both steps are checked. -/
def append? (read : Option Int64) (c : Char) : Option Int64 :=
  (read.bind fun v => ofInt? (10 * v.toInt)).bind fun v =>
    ofInt? (v.toInt + (c.toNat - '0'.toNat : Nat))

theorem foldl_append?_none (digits : List Char) : digits.foldl append? none = none := by
  induction digits with
  | nil => rfl
  | cons c digits ih => exact ih

/-- Where the product does not fit, the sum would not fit either. -/
theorem append?_some {v : Int64} {n : Nat} (same : v.toInt = n) (c : Char) :
    append? (some v) c = ofInt? (10 * n + (c.toNat - '0'.toNat) : Nat) := by
  rw [append?, Option.bind_some, same]
  by_cases fits : Fits (10 * n)
  · rw [ofInt?, if_pos fits, Option.bind_some, toInt_ofInt fits]
    rfl
  · have larger : ¬Fits (10 * n + (c.toNat - '0'.toNat) : Nat) := by
      simp only [Fits, least, greatest] at fits ⊢
      omega
    rw [(ofInt?_eq_none_iff _).mpr fits, (ofInt?_eq_none_iff _).mpr larger, Option.bind_none]

/-- A step fails only if the whole number is too large, for a number never falls as digits are added. -/
theorem foldl_append?_some {v : Int64} {n : Nat} (same : v.toInt = n) (digits : List Char) :
    digits.foldl append? (some v) = ofInt? (Nat.ofDigitChars 10 digits n) := by
  induction digits generalizing v n with
  | nil => exact ((ofInt?_eq_some_iff n v).mpr same.symm).symm
  | cons c digits ih =>
    have unfolded : Nat.ofDigitChars 10 (c :: digits) n =
      Nat.ofDigitChars 10 digits (10 * n + (c.toNat - '0'.toNat)) := rfl
    rw [List.foldl_cons, append?_some same, unfolded]
    cases step : ofInt? (10 * n + (c.toNat - '0'.toNat) : Nat) with
    | none =>
      have beyond := (ofInt?_eq_none_iff _).mp step
      have grows := Decimal.le_ofDigitChars digits (10 * n + (c.toNat - '0'.toNat))
      have larger : ¬Fits (Nat.ofDigitChars 10 digits (10 * n + (c.toNat - '0'.toNat))) := by
        simp only [Fits, least, greatest] at beyond ⊢
        omega
      rw [foldl_append?_none, (ofInt?_eq_none_iff _).mpr larger]
    | some w => exact ih ((ofInt?_eq_some_iff _ w).mp step).symm

theorem ofDigits?_eq_foldl (digits : List Char) :
    ofDigits? digits = digits.foldl append? (some 0) := by
  rw [ofDigits?_eq, foldl_append?_some (n := 0) rfl]

end Word

namespace Scanner

variable {σ : Type} [Source σ]

theorem upcoming_eq_integer (s : Scanner σ) :
    ∃ blanks, (∀ c ∈ blanks, Text.isBlank c = true) ∧
      s.upcoming = s.upcoming.takeWhile Char.isDigit ++ blanks ++ s.integer.2.upcoming ∧
      s.integer.2.position =
        s.position + (s.upcoming.takeWhile Char.isDigit).length + blanks.length := by
  refine ⟨(s.upcoming.dropWhile Char.isDigit).takeWhile Text.isBlank, ?_, ?_, s.position_integer⟩
  · exact fun c member => List.mem_takeWhile_imp member
  · rw [upcoming_integer, List.append_assoc, List.takeWhile_append_dropWhile,
      List.takeWhile_append_dropWhile]

/-- The digits at hand are read as the decimal number they write if it is at most the greatest word,
which is when every step of building it up is a word, and otherwise they are refused as a whole at
the first of them. Either way the scanner is after them and the blanks that follow, and the last end
it tells is just after the last digit, or the greatest position if that is further. For what is told
goes up by one with each character taken, until it cannot. -/
theorem integer_exact (s : Scanner σ) (c : Char) (present : s.lookahead = some c)
    (digit : c.isDigit = true) :
    let digits := s.upcoming.takeWhile Char.isDigit
    let value := Nat.ofDigitChars 10 digits 0
    (value ≤ 2 ^ 63 - 1 → ∃ v : Int64, s.integer.1 = .ok v ∧ v.toInt = value) ∧
    (2 ^ 63 - 1 < value → s.integer.1.mapError Diagnostic.told =
      .error ⟨.numberTooLarge (String.ofList digits), s.place⟩) ∧
    (∀ v, s.integer.1 = .ok v ↔ digits.foldl Word.append? (some 0) = some v) ∧
    (∃ blanks, (∀ c ∈ blanks, Text.isBlank c = true) ∧
      s.upcoming = digits ++ blanks ++ s.integer.2.upcoming ∧
      s.integer.2.position = s.position + digits.length + blanks.length) ∧
    s.integer.2.Settled ∧
    s.place = min s.position (2 ^ 32 - 1) ∧
    s.integer.2.lastPlace = min (s.position + digits.length) (2 ^ 32 - 1) ∧
    ∀ (t : Scanner σ) (d : Char), t.lookahead = some d →
      t.advance.place = min (t.place + 1) (2 ^ 32 - 1) ∧
      t.advance.lastPlace =
        if Text.isBlank d then t.lastPlace else min (t.place + 1) (2 ^ 32 - 1) := by
  intro digits value
  refine ⟨fun fits => ?_, fun exceeds => ?_, fun v => ?_, s.upcoming_eq_integer, settled_integer s,
    rfl, congrArg Position.told (lastEnd_integer present digit), fun t d here => ?_⟩
  · refine ⟨Int64.ofInt value, congrArg Prod.fst (integer_of_fits fits), ?_⟩
    exact Int64.toInt_ofInt_of_le (by omega) (by omega)
  · rw [integer_of_exceeds exceeds]
    rfl
  · rw [integer_fst, ← Word.ofDigits?_eq_foldl]
    cases Word.ofDigits? digits <;> simp
  · exact ⟨place_advance here, lastPlace_advance here⟩

/-- The greatest word after two zeros, and the number after it. -/
theorem integer_exact_greatest :
    (∃ v : Int64, (ofText "009223372036854775807 )").integer.1 = .ok v ∧
      v.toInt = 9223372036854775807) ∧
    (ofText "009223372036854775807 )").integer.2.lastPlace = 21 ∧
    (ofText " 9223372036854775808").integer.1.mapError Diagnostic.told =
      .error ⟨.numberTooLarge "9223372036854775808", 1⟩ := by
  obtain ⟨reads, _, _, _, _, _, ends, _⟩ :=
    integer_exact (ofText "009223372036854775807 )") '0' (by decide +kernel) (by decide)
  obtain ⟨_, refuses, _⟩ :=
    integer_exact (ofText " 9223372036854775808") '9' (by decide +kernel) (by decide)
  refine ⟨?_, ends.trans (by decide +kernel), (refuses (by decide +kernel)).trans (by decide +kernel)⟩
  obtain ⟨v, read, same⟩ := reads (by decide +kernel)
  exact ⟨v, read, same.trans (by decide +kernel)⟩

/-- A digit after so many blanks. -/
def indented (count : Nat) : String := String.ofList (List.replicate count ' ' ++ ['1'])

theorem upcoming_indented (count : Nat) : (ofText (indented count)).upcoming = ['1'] := by
  have blank : ∀ c ∈ List.replicate count ' ', Text.isBlank c = true := by
    intro c member
    rw [List.eq_of_mem_replicate member]
    rfl
  rw [ofText, upcoming_ofSource, Source.yielded_text, indented, String.toList_ofList,
    List.dropWhile_append_of_pos blank]
  decide

theorem position_indented (count : Nat) : (ofText (indented count)).position = count := by
  have length : (indented count).toList.length = count + 1 := by simp [indented]
  have extent : (ofText (indented count)).extent = count + 1 := by
    rw [ofText, extent_ofSource, Source.yielded_text, length]
  rw [Scanner.extent, upcoming_indented] at extent
  exact Nat.succ.inj extent

theorem lookahead_indented (count : Nat) : (ofText (indented count)).lookahead = some '1' := by
  rw [← head?_upcoming, upcoming_indented, List.head?_cons]

theorem lastEnd_indented (count : Nat) :
    (ofText (indented count)).integer.2.lastEnd = count + 1 := by
  rw [lastEnd_integer (lookahead_indented count) rfl, position_indented, upcoming_indented]
  rfl

/-- The end of a digit at the greatest position is not told: it would be one more. -/
theorem integer_exact_far :
    (ofText (indented (2 ^ 32 - 1))).lookahead = some '1' ∧
    (ofText (indented (2 ^ 32 - 1))).place = 2 ^ 32 - 1 ∧
    (ofText (indented (2 ^ 32 - 1))).integer.2.lastPlace = 2 ^ 32 - 1 ∧
    (ofText (indented (2 ^ 32 - 1))).integer.2.lastPlace ≠
      (ofText (indented (2 ^ 32 - 1))).place +
        ((ofText (indented (2 ^ 32 - 1))).upcoming.takeWhile Char.isDigit).length := by
  have starts : (ofText (indented (2 ^ 32 - 1))).place = 2 ^ 32 - 1 := by
    rw [place, position_indented]
    rfl
  have ends : (ofText (indented (2 ^ 32 - 1))).integer.2.lastPlace = 2 ^ 32 - 1 := by
    rw [lastPlace, lastEnd_indented]
    rfl
  refine ⟨lookahead_indented _, starts, ends, ?_⟩
  rw [starts, ends, upcoming_indented]
  decide

end Scanner

end Reckoner
