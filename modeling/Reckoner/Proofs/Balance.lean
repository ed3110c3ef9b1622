import Reckoner.Proofs.Failure
import Reckoner.Proofs.RoundTrip

/-! The nesting limit is a matter of counting parentheses. In text that a parse takes, the number of
open parentheses is the number of those opened less the number of those closed (`Text.balance`), so
the room that a descent has left is the limit less the balance of what stands before it. Groups that
stand side by side add nothing to it. -/
namespace Reckoner

namespace Text

/-- How many more parentheses are opened than closed. -/
def balance (cs : List Char) : Int := cs.count '(' - cs.count ')'

/-- The place of the first opening parenthesis that has a given balance before it. -/
def FirstAtBalance (level : Int) (cs : List Char) (place : Nat) : Prop :=
  cs[place]? = some '(' ∧ balance (cs.take place) = level ∧
    ∀ q < place, cs[q]? = some '(' → balance (cs.take q) ≠ level

theorem balance_cons (c : Char) (cs : List Char) :
    balance (c :: cs) = (if c = '(' then 1 else if c = ')' then -1 else 0) + balance cs := by
  by_cases opens : c = '('
  · subst opens
    simp [balance]
    omega
  by_cases closes : c = ')'
  · subst closes
    simp [balance]
    omega
  · simp [balance, opens, closes]

namespace Nested

variable {limit n : Nat} {cs front : List Char}

/-- Where a parenthesis is closed only if one is open, those that are open are those opened and not
closed. -/
theorem openAfter_eq (nested : Nested limit n cs) : (openAfter n cs : Int) = n + balance cs := by
  induction cs generalizing n with
  | nil => simp [openAfter, balance]
  | cons c cs ih =>
    obtain ⟨_, closes, rest⟩ := nested
    rw [openAfter, ih rest, balance_cons, openNext]
    split_ifs with first second
    · omega
    · have := closes second
      omega
    · omega

theorem openAfter_le (nested : Nested limit n cs) (low : n ≤ limit) : openAfter n cs ≤ limit := by
  induction cs generalizing n with
  | nil => exact low
  | cons c cs ih =>
    obtain ⟨opens, _, rest⟩ := nested
    apply ih rest
    rw [openNext]
    split_ifs with first second
    · exact opens first
    · omega
    · exact low

theorem balance_eq (nested : Nested limit 0 cs) : balance cs = unclosed cs := by
  have level := nested.openAfter_eq
  rw [unclosed]
  omega

theorem of_isPrefix (nested : Nested limit n cs) (starts : front <+: cs) : Nested limit n front := by
  obtain ⟨rest, rfl⟩ := starts
  exact (nested_append.mp nested).1

theorem balance_bounds (nested : Nested limit 0 cs) : 0 ≤ balance cs ∧ balance cs ≤ limit := by
  have low := nested.openAfter_le (Nat.zero_le limit)
  rw [nested.balance_eq, unclosed]
  omega

end Nested

namespace Overflows

variable {limit : Nat} {front back cs : List Char}

theorem firstAtBalance (h : Overflows limit front back cs) :
    FirstAtBalance limit cs front.length := by
  obtain ⟨here, level, before⟩ := h.firstBeyond
  obtain ⟨rfl, nested, full⟩ := h
  refine ⟨here, ?_, ?_⟩
  · rw [List.take_left, nested.balance_eq, full]
  · intro q earlier opens
    have other := before q earlier opens
    rw [List.take_append_of_le_length (Nat.le_of_lt earlier)] at other ⊢
    rw [(nested.of_isPrefix (front.take_prefix q)).balance_eq]
    omega

theorem exceeds (h : Overflows limit front back cs) :
    ∃ longer, longer <+: cs ∧ (limit : Int) < balance longer := by
  obtain ⟨rfl, nested, full⟩ := h
  refine ⟨front ++ ['('], ⟨back, by simp⟩, ?_⟩
  have longer : balance (front ++ ['(']) = balance front + 1 := by
    simp [balance]
    omega
  rw [longer, nested.balance_eq, full]
  omega

end Overflows

end Text

variable {text : String}

theorem nested_of_parseText {e : Expr} (read : Parser.parseText text = .ok e) :
    Text.Nested 256 0 text.toList ∧ Text.unclosed text.toList = 0 := by
  obtain ⟨rest, descent, absent⟩ := Parser.parseComplete_ok_iff.mp read
  have takes := descent.takes rfl (Nat.zero_add nestingLimit)
  obtain ⟨taken, split, _, nested, level⟩ := descent.taken_of_text takes
  rw [Scanner.upcoming_eq_nil.mpr absent, List.append_nil] at split
  rw [split]
  exact ⟨nested, level⟩

theorem overflows_of_parseText {limit place : Nat}
    (refused : Parser.parseText text = .error ⟨.nestingTooDeep limit, place⟩) :
    ∃ front back, Text.Overflows 256 front back text.toList ∧ place = front.length := by
  rcases Parser.of_parseComplete_error refused with ⟨rest, descent⟩ | ⟨e, rest, c, _, _, other⟩
  · obtain ⟨left, u, path, cause⟩ := descent.refused rfl
    cases cause with
    | tooLarge _ _ _ exceeds =>
      have other := Scanner.of_integer_error exceeds
      simp at other
    | tooDeep =>
      obtain ⟨front, back, overflows, same⟩ := overflows_of_tooDeep descent rfl
      exact ⟨front, back, overflows, congrArg Diagnostic.position same⟩
  · simp at other

/-- A phrase within the limit is read, and one beyond it is refused where it goes over. -/
theorem Derives.read_or_overflows {shape : Shape} {depth : Nat}
    (derived : Derives (.chain .additive) (Text.tokens text.toList) shape depth) :
    (∃ e, Parser.parseText text = .ok e ∧ e.shape = shape) ∨
    ∃ front back, Text.Overflows 256 front back text.toList ∧
      Parser.parseText text = .error ⟨.nestingTooDeep 256, front.length⟩ := by
  by_cases within : depth ≤ nestingLimit
  · exact .inl (derived.parseText within)
  · have met := (Scanner.tokens_ofText text).trans (List.append_nil _).symm
    obtain ⟨diagnostic, rest, deep, descent⟩ :=
      derived.tooDeep (Nat.lt_of_not_le within) (Scanner.settled_ofText text) met
    obtain ⟨front, back, overflows, rfl⟩ := overflows_of_tooDeep descent deep
    exact .inr ⟨front, back, overflows, Parser.parseComplete_of_descent_error descent⟩

/-- The limit on nesting is a limit on the balance of parentheses. From the start of a text that is
read to any place in it the balance is from 0 to 256, and 0 at its end. A text is refused as too deep
at an opening parenthesis with the balance 256 before it. A phrase of the grammar, however deep it
is, is read if the balance stays within 256, and else refused at the first such parenthesis. -/
theorem parseText_balance (text : String) :
    (∀ e, Parser.parseText text = .ok e →
      (∀ front, front <+: text.toList → 0 ≤ Text.balance front ∧ Text.balance front ≤ 256) ∧
      Text.balance text.toList = 0) ∧
    (∀ limit place, Parser.parseText text = .error ⟨.nestingTooDeep limit, place⟩ →
      text.toList[place]? = some '(' ∧ Text.balance (text.toList.take place) = 256) ∧
    ∀ shape depth, Derives (.chain .additive) (Text.tokens text.toList) shape depth →
      ((∀ front, front <+: text.toList → Text.balance front ≤ 256) →
        ∃ e, Parser.parseText text = .ok e ∧ e.shape = shape) ∧
      ((¬∀ front, front <+: text.toList → Text.balance front ≤ 256) →
        ∃ place, Text.FirstAtBalance 256 text.toList place ∧
          Parser.parseText text = .error ⟨.nestingTooDeep 256, place⟩) := by
  refine ⟨?_, ?_, ?_⟩
  · intro e read
    obtain ⟨nested, level⟩ := nested_of_parseText read
    refine ⟨fun front starts => (nested.of_isPrefix starts).balance_bounds, ?_⟩
    rw [nested.balance_eq, level]
    rfl
  · intro limit place refused
    obtain ⟨front, back, overflows, rfl⟩ := overflows_of_parseText refused
    obtain ⟨here, level, _⟩ := overflows.firstAtBalance
    exact ⟨here, level⟩
  · intro shape depth derived
    refine ⟨?_, ?_⟩
    · intro low
      rcases derived.read_or_overflows with read | ⟨front, back, overflows, _⟩
      · exact read
      · obtain ⟨longer, starts, high⟩ := overflows.exceeds
        exact absurd (low longer starts) (Int.not_le.mpr high)
    · intro high
      rcases derived.read_or_overflows with ⟨e, read, _⟩ | ⟨front, back, overflows, refused⟩
      · have nested := (nested_of_parseText read).1
        exact absurd (fun front starts => (nested.of_isPrefix starts).balance_bounds.2) high
      · exact ⟨front.length, overflows.firstAtBalance, refused⟩

def Text.wrapped (n : Nat) : List Char := List.replicate n '(' ++ '1' :: List.replicate n ')'

theorem Text.tokens_wrapped_succ (n : Nat) :
    tokens (wrapped (n + 1)) = .mark '(' :: tokens (wrapped n) ++ [.mark ')'] := by
  have split : wrapped (n + 1) = '(' :: (wrapped n ++ ')' :: []) := by
    rw [wrapped, List.replicate_succ, List.replicate_succ']
    simp [wrapped]
  rw [split, tokens_mark (by decide) (by decide) (by decide), tokens_append (by decide) (by decide),
    tokens_mark (by decide) (by decide) (by decide), tokens_nil]
  rfl

theorem derives_wrapped (n : Nat) :
    Derives (.chain .additive) (Text.tokens (Text.wrapped n)) (.number 1) n := by
  have factor : Derives .factor (Text.tokens (Text.wrapped n)) (.number 1) n := by
    induction n with
    | zero =>
      have one : Text.tokens (Text.wrapped 0) = [.literal ['1']] := by decide +kernel
      rw [one]
      exact .literal (by decide)
    | succ n ih =>
      rw [Text.tokens_wrapped_succ]
      exact .group (ih.factor_chain .additive)
  exact factor.factor_chain .additive

theorem Text.balance_openings (n : Nat) : balance (List.replicate n '(') = n := by
  simp [balance, List.count_replicate]

theorem Text.balance_le_of_wrapped {n : Nat} {front : List Char} (starts : front <+: wrapped n) :
    balance front ≤ n := by
  have opened : front.count '(' ≤ n := by
    simpa [wrapped, List.count_replicate] using starts.sublist.count_le '('
  rw [balance]
  omega

/-- One more pair of parentheses makes the difference. -/
theorem parseText_balance_wrapped :
    (∃ e, Parser.parseText (String.ofList (Text.wrapped 256)) = .ok e ∧ e.shape = .number 1) ∧
    ∃ place, Text.FirstAtBalance 256 (Text.wrapped 257) place ∧
      Parser.parseText (String.ofList (Text.wrapped 257)) = .error ⟨.nestingTooDeep 256, place⟩ := by
  obtain ⟨_, _, phrase⟩ := parseText_balance (String.ofList (Text.wrapped 256))
  obtain ⟨_, _, longer⟩ := parseText_balance (String.ofList (Text.wrapped 257))
  rw [String.toList_ofList] at phrase longer
  refine ⟨(phrase _ _ (derives_wrapped 256)).1 ?_, (longer _ _ (derives_wrapped 257)).2 ?_⟩
  · exact fun front starts => Text.balance_le_of_wrapped starts
  · intro low
    have high := low (List.replicate 257 '(') (List.prefix_append _ _)
    rw [Text.balance_openings] at high
    exact absurd high (by decide)

end Reckoner
