/-! Positions as they are told.

The characters of an input are counted exactly. A position is told as a number of 32 bits, which
stays at the greatest one when the count goes past it. Counting with such numbers from the start
comes to the same (`told_succ`). -/
namespace Reckoner.Position

/-- The greatest number of 32 bits. -/
def greatest : Nat := 4294967295

/-- The position that is told of a count. -/
def told (count : Nat) : Nat := min count greatest

def after (position : Nat) : Nat := min (position + 1) greatest

theorem told_of_le {count : Nat} (fits : count ≤ greatest) : told count = count :=
  Nat.min_eq_left fits

theorem told_succ (count : Nat) : told (count + 1) = after (told count) := by
  simp only [told, after]
  omega

end Reckoner.Position
