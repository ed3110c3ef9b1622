import Reckoner.Diagnostic.Basic
import Reckoner.Scanner.Basic
import Reckoner.Text.Numeric

/-! Tokens: identifiers, integer literals, operators and single characters. Each is taken together
with the blanks after it, so a scanner between tokens never has a blank as its lookahead. -/
namespace Reckoner.Scanner

variable {σ : Type} [Source σ]

/-- The character reported when there is none. -/
def endMark : Char := '\x00'

/-- The character shown as the next one, also where there is none. -/
def peek (s : Scanner σ) : Char := s.lookahead.getD endMark

def expect (c : Char) (s : Scanner σ) : Except Diagnostic Unit × Scanner σ :=
  if s.lookahead = some c then (.ok (), s.skip)
  else (.error ⟨.unexpectedCharacter c s.lookahead, s.position⟩, s)

/-- An identifier. Its first character is the lookahead, whatever it is; callers see to it that it
is a letter. -/
def identifier (s : Scanner σ) : String × Scanner σ :=
  let (tail, rest) := s.advance.takeWhile Text.isLetterOrNumeric
  let name := String.ofList (s.peek :: tail)
  (name, rest.skipBlanks.record (.identifierRead name))

/-- An integer literal, 0 if there is no digit. One that does not fit in a word is taken whole and
refused at its first digit. -/
def integer (s : Scanner σ) : Except Diagnostic Int64 × Scanner σ :=
  let (digits, rest) := s.takeWhile Char.isDigit
  let rest := rest.skipBlanks.record (.integerRead (String.ofList digits))
  match Word.ofDigits? digits with
  | some value => (.ok value, rest)
  | none => (.error ⟨.numberTooLarge (String.ofList digits), s.position⟩, rest)

def operator? (s : Scanner σ) : Option Operator := s.lookahead.bind Operator.ofSymbol?

def takeOperator (s : Scanner σ) : Option Operator × Scanner σ :=
  match s.operator? with
  | some op => (some op, s.skip)
  | none => (none, s)

theorem lookahead_of_operator? {s : Scanner σ} {op : Operator} (h : s.operator? = some op) :
    s.lookahead = some op.symbol := by
  obtain ⟨c, present, found⟩ := Option.bind_eq_some_iff.mp h
  rw [present, (Operator.ofSymbol?_eq_some_iff c op).mp found]

theorem remaining_expect_le (c : Char) (s : Scanner σ) :
    (s.expect c).2.remaining ≤ s.remaining := by
  unfold expect
  split
  · exact remaining_skip_le s
  · exact Nat.le_refl _

theorem remaining_identifier_le (s : Scanner σ) : s.identifier.2.remaining ≤ s.remaining :=
  Nat.le_trans (remaining_skipBlanks_le _)
    (Nat.le_trans (remaining_takeWhile_le ..) (remaining_advance_le s))

theorem remaining_integer_le (s : Scanner σ) : s.integer.2.remaining ≤ s.remaining := by
  unfold integer
  simp only
  split <;> exact Nat.le_trans (remaining_skipBlanks_le _) (remaining_takeWhile_le ..)

end Reckoner.Scanner
