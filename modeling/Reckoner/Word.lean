import Reckoner.Decimal

/-! The integers an expression computes with: words of 64 bits with a sign. Whether an integer fits
in a word is decided before it becomes one, so no word ever wraps around. -/
namespace Reckoner.Word

/-- The least and the greatest integer of 64 bits. -/
def least : Int := -9223372036854775808
def greatest : Nat := 9223372036854775807

def Fits (n : Int) : Prop := least ≤ n ∧ n ≤ greatest

instance (n : Int) : Decidable (Fits n) := inferInstanceAs (Decidable (_ ∧ _))

def ofInt? (n : Int) : Option Int64 := if Fits n then some (Int64.ofInt n) else none

def text (value : Int64) : String := Decimal.ofInt value.toInt

theorem fits_toInt (value : Int64) : Fits value.toInt := by
  have low := value.le_toInt
  have high := value.toInt_lt
  constructor
  · simp only [least]; omega
  · simp only [greatest]; omega

theorem toInt_ofInt {n : Int} (fits : Fits n) : (Int64.ofInt n).toInt = n := by
  obtain ⟨low, high⟩ := fits
  simp only [least, greatest] at low high
  exact Int64.toInt_ofInt_of_le (by omega) (by omega)

theorem ofInt?_eq_some_iff (n : Int) (value : Int64) : ofInt? n = some value ↔ n = value.toInt := by
  unfold ofInt?
  constructor
  · intro h
    split at h
    · next fits =>
      obtain rfl := Option.some.inj h
      exact (toInt_ofInt fits).symm
    · contradiction
  · rintro rfl
    rw [if_pos (fits_toInt value), Int64.ofInt_toInt]

theorem ofInt?_eq_none_iff (n : Int) : ofInt? n = none ↔ ¬Fits n := by
  simp [ofInt?]

def ofDigits? (digits : List Char) : Option Int64 :=
  (Decimal.upTo? greatest digits 0).map fun n : Nat => Int64.ofInt n

def ofNegatedDigits? (digits : List Char) : Option Int64 :=
  (Decimal.upTo? (greatest + 1) digits 0).map fun n : Nat => Int64.ofInt (-n)

theorem ofDigits?_eq (digits : List Char) :
    ofDigits? digits = ofInt? (Nat.ofDigitChars 10 digits 0) := by
  rw [ofDigits?, Decimal.upTo?_eq _ _ _ (Nat.zero_le _), ofInt?]
  by_cases small : Nat.ofDigitChars 10 digits 0 ≤ greatest
  · have fits : Fits (Nat.ofDigitChars 10 digits 0) := by simp only [Fits, least]; omega
    rw [if_pos small, if_pos fits, Option.map_some]
  · have large : ¬Fits (Nat.ofDigitChars 10 digits 0) := by simp only [Fits]; omega
    rw [if_neg small, if_neg large, Option.map_none]

theorem ofNegatedDigits?_eq (digits : List Char) :
    ofNegatedDigits? digits = ofInt? (-(Nat.ofDigitChars 10 digits 0)) := by
  rw [ofNegatedDigits?, Decimal.upTo?_eq _ _ _ (Nat.zero_le _), ofInt?]
  by_cases small : Nat.ofDigitChars 10 digits 0 ≤ greatest + 1
  · have fits : Fits (-(Nat.ofDigitChars 10 digits 0)) := by
      simp only [Fits, least, greatest] at small ⊢; omega
    rw [if_pos small, if_pos fits, Option.map_some]
  · have large : ¬Fits (-(Nat.ofDigitChars 10 digits 0)) := by
      simp only [Fits, least, greatest] at small ⊢; omega
    rw [if_neg small, if_neg large, Option.map_none]

end Reckoner.Word
