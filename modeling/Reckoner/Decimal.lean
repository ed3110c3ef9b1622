/-! Decimal numerals.

Literals are read with a limit: `upTo?_eq` says that giving up early on a long literal gives the
same answer as computing its value first. -/
namespace Reckoner.Decimal

def ofNat (n : Nat) : String := String.ofList (Nat.toDigits 10 n)

def ofInt : Int → String
  | .ofNat n => ofNat n
  | .negSucc n => "-" ++ ofNat (n + 1)

theorem isDigit_of_mem_ofNat {n : Nat} {c : Char} (member : c ∈ (ofNat n).toList) :
    c.isDigit = true := by
  rw [ofNat, String.toList_ofList] at member
  exact Nat.isDigit_of_mem_toDigits (by decide) (by decide) member

theorem ofNat_injective {m n : Nat} (same : ofNat m = ofNat n) : m = n := by
  have values := congrArg (fun numeral => Nat.ofDigitChars 10 numeral.toList 0) same
  simpa [ofNat] using values

/-- The sign is no digit, so a numeral tells whether its number is negative. -/
theorem ofNat_ne_negated (m n : Nat) : ofNat m ≠ "-" ++ ofNat n := by
  intro same
  have sign : '-' ∈ (ofNat m).toList := by
    rw [same]
    simp
  have digit := isDigit_of_mem_ofNat sign
  contradiction

theorem ofInt_injective {m n : Int} (same : ofInt m = ofInt n) : m = n := by
  cases m with
  | ofNat m =>
    cases n with
    | ofNat n => exact congrArg Int.ofNat (ofNat_injective same)
    | negSucc n => exact absurd same (ofNat_ne_negated m (n + 1))
  | negSucc m =>
    cases n with
    | ofNat n => exact absurd same.symm (ofNat_ne_negated n (m + 1))
    | negSucc n =>
      have opposite := ofNat_injective ((String.append_right_inj "-").mp same)
      exact congrArg Int.negSucc (Nat.succ.inj opposite)

theorem isDigit_or_sign_of_mem_ofInt {n : Int} {c : Char} (member : c ∈ (ofInt n).toList) :
    c.isDigit = true ∨ c = '-' := by
  cases n with
  | ofNat n => exact .inl (isDigit_of_mem_ofNat member)
  | negSucc n =>
    rw [ofInt, String.toList_append] at member
    rcases List.mem_append.mp member with sign | digit
    · exact .inr (by simpa using sign)
    · exact .inl (isDigit_of_mem_ofNat digit)

theorem toList_ofInt_ne_nil (n : Int) : (ofInt n).toList ≠ [] := by
  cases n <;> simp [ofInt, ofNat, Nat.toDigits_ne_nil]

/-- Goes on reading decimal digits after a value already read, and gives up as soon as the
number passes `limit`. -/
def upTo? (limit : Nat) : List Char → Nat → Option Nat
  | [], read => some read
  | c :: cs, read =>
    let next := 10 * read + (c.toNat - '0'.toNat)
    if next ≤ limit then upTo? limit cs next else none

theorem le_ofDigitChars (cs : List Char) (read : Nat) : read ≤ Nat.ofDigitChars 10 cs read := by
  induction cs generalizing read with
  | nil => exact Nat.le_refl _
  | cons c cs ih =>
    have := ih (10 * read + (c.toNat - '0'.toNat))
    simp only [Nat.ofDigitChars, List.foldl_cons] at this ⊢
    omega

/-- More digits never make a number smaller. -/
theorem ofDigitChars_le_of_isPrefix {cs ds : List Char} (h : cs <+: ds) :
    Nat.ofDigitChars 10 cs 0 ≤ Nat.ofDigitChars 10 ds 0 := by
  obtain ⟨more, rfl⟩ := h
  have longer : Nat.ofDigitChars 10 (cs ++ more) 0 =
      Nat.ofDigitChars 10 more (Nat.ofDigitChars 10 cs 0) := List.foldl_append
  rw [longer]
  exact le_ofDigitChars more _

theorem upTo?_eq (limit : Nat) (cs : List Char) (read : Nat) (fits : read ≤ limit) :
    upTo? limit cs read =
      if Nat.ofDigitChars 10 cs read ≤ limit then some (Nat.ofDigitChars 10 cs read) else none := by
  induction cs generalizing read with
  | nil => simp [upTo?, Nat.ofDigitChars, fits]
  | cons c cs ih =>
    have unfolded : Nat.ofDigitChars 10 (c :: cs) read =
      Nat.ofDigitChars 10 cs (10 * read + (c.toNat - '0'.toNat)) := rfl
    simp only [upTo?, unfolded]
    split
    · next h => exact ih _ h
    · next h =>
      have := le_ofDigitChars cs (10 * read + (c.toNat - '0'.toNat))
      rw [if_neg (by omega)]

end Reckoner.Decimal
