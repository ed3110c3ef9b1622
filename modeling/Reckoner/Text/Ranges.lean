/-! Sets of characters given by intervals of code points.

A character class of the Unicode standard is a long list of short intervals. A table here
lists them in ascending order, so that a search can stop at the first interval that begins
past the code point it looks for. Two classes have no character in common where no interval of the
one meets an interval of the other (`holds_of_apart`). -/
namespace Reckoner.Text

/-- Closed intervals of code points, each a first and a last member. -/
abbrev Ranges := List (Nat × Nat)

namespace Ranges

/-- Membership of a code point, for a table in ascending order. -/
def holds : Ranges → Nat → Bool
  | [], _ => false
  | (first, last) :: rest, point =>
    if point < first then false else point ≤ last || holds rest point

def Apart (a b : Ranges) : Prop := ∀ r ∈ a, ∀ q ∈ b, r.2 < q.1 ∨ q.2 < r.1

instance (a b : Ranges) : Decidable (Apart a b) :=
  inferInstanceAs (Decidable (∀ r ∈ a, ∀ q ∈ b, _))

theorem mem_of_holds {ranges : Ranges} {point : Nat} (h : ranges.holds point = true) :
    ∃ r ∈ ranges, r.1 ≤ point ∧ point ≤ r.2 := by
  induction ranges with
  | nil => contradiction
  | cons range rest ih =>
    simp only [holds] at h
    split at h
    · contradiction
    · next late =>
      rcases (Bool.or_eq_true _ _).mp h with here | later
      · exact ⟨range, List.mem_cons_self .., Nat.not_lt.mp late, of_decide_eq_true here⟩
      · obtain ⟨r, member, bounds⟩ := ih later
        exact ⟨r, List.mem_cons_of_mem _ member, bounds⟩

theorem holds_of_apart {a b : Ranges} (apart : Apart a b) {point : Nat}
    (h : a.holds point = true) : b.holds point = false := by
  rw [Bool.eq_false_iff]
  intro other
  obtain ⟨r, inFirst, low, high⟩ := mem_of_holds h
  obtain ⟨q, inSecond, low', high'⟩ := mem_of_holds other
  have := apart r inFirst q inSecond
  omega

end Ranges

end Reckoner.Text
