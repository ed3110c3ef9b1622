import Reckoner.Scanner.Token

/-! Reading expressions by descent, one character ahead and without going back.

```text
sum     := product (('+' | '-') product)*
product := factor (('*' | '/') factor)*
factor  := identifier | integer | '(' sum ')'
```

Repetitions fold to the left. Parentheses nest at most `nestingLimit` deep, and the descent is a
recursion on how many more may be opened. The first malformed character ends the parse with the
scanner still at it; a literal that is too large ends it with the scanner after the literal. -/
namespace Reckoner

/-- How deep parentheses may nest. -/
def nestingLimit : Nat := 256

/-- A way of reading something, which never gives characters back. -/
structure Parser (σ : Type) [Source σ] (α : Type) where
  run : Scanner σ → Except Diagnostic α × Scanner σ
  remaining_le (s : Scanner σ) : (run s).2.remaining ≤ s.remaining

namespace Parser

variable {σ : Type} [Source σ]

set_option linter.unusedVariables false in
/-- Goes on with operators of one power after a left operand, and folds to the left. -/
def chainFrom (power : Power) (operand : Parser σ Expr) (left : Expr) (s : Scanner σ) :
    Except Diagnostic Expr × Scanner σ :=
  match found : s.operator? with
  | some op =>
    if op.power = power then
      match read : operand.run s.skip with
      | (.ok right, rest) =>
        chainFrom power operand (left.join op s.position right)
          (rest.record (.reduced op s.position))
      | (.error diagnostic, rest) => (.error diagnostic, rest)
    else (.ok left, s)
  | none => (.ok left, s)
termination_by s.remaining
decreasing_by
  have present : s.lookahead ≠ none := by simp [Scanner.lookahead_of_operator? found]
  have shorter := operand.remaining_le s.skip
  rw [read] at shorter
  exact Nat.lt_of_le_of_lt shorter (Scanner.remaining_skip_lt s present)

theorem remaining_chainFrom_le (power : Power) (operand : Parser σ Expr) (left : Expr)
    (s : Scanner σ) : (chainFrom power operand left s).2.remaining ≤ s.remaining := by
  fun_induction chainFrom power operand left s with
  | case1 left s op found same right rest read ih =>
    have shorter := operand.remaining_le s.skip
    rw [read] at shorter
    exact Nat.le_trans ih (Nat.le_trans shorter (Scanner.remaining_skip_le s))
  | case2 left s op found same diagnostic rest read =>
    have shorter := operand.remaining_le s.skip
    rw [read] at shorter
    exact Nat.le_trans shorter (Scanner.remaining_skip_le s)
  | case3 | case4 => exact Nat.le_refl _

def chain (power : Power) (operand : Parser σ Expr) : Parser σ Expr where
  run s :=
    match operand.run s with
    | (.ok first, rest) => chainFrom power operand first rest
    | (.error diagnostic, rest) => (.error diagnostic, rest)
  remaining_le s := by
    have shorter := operand.remaining_le s
    split
    · next h =>
      rw [h] at shorter
      exact Nat.le_trans (remaining_chainFrom_le ..) shorter
    · next h => rw [h] at shorter; exact shorter

def productOf (factor : Parser σ Expr) : Parser σ Expr := chain .multiplicative factor
def sumOf (factor : Parser σ Expr) : Parser σ Expr := chain .additive (productOf factor)

/-- An expression in parentheses, at its opening one. There is no `inner` expression to read where
the limit forbids to open another parenthesis. -/
def group (inner : Option (Parser σ Expr)) (s : Scanner σ) : Except Diagnostic Expr × Scanner σ :=
  match inner with
  | none => (.error ⟨.nestingTooDeep nestingLimit, s.position⟩, s)
  | some inner =>
    match inner.run s.skip with
    | (.error diagnostic, rest) => (.error diagnostic, rest)
    | (.ok e, rest) =>
      match rest.expect ')' with
      | (.error diagnostic, rest) => (.error diagnostic, rest)
      | (.ok (), rest) => (.ok e, rest)

theorem remaining_group_le (inner : Option (Parser σ Expr)) (s : Scanner σ) :
    (group inner s).2.remaining ≤ s.remaining := by
  unfold group
  split
  · exact Nat.le_refl _
  · next inner =>
    have shorter := Nat.le_trans (inner.remaining_le s.skip) (Scanner.remaining_skip_le s)
    split
    · next h => rw [h] at shorter; exact shorter
    · next e rest h =>
      rw [h] at shorter
      have closed := Nat.le_trans (Scanner.remaining_expect_le ')' rest) shorter
      split
      all_goals next h => rw [h] at closed; exact closed

def symbol (s : Scanner σ) : Except Diagnostic Expr × Scanner σ :=
  let (name, rest) := s.identifier
  (.ok (.symbol name ⟨s.position, rest.lastEnd⟩), rest)

def number (s : Scanner σ) : Except Diagnostic Expr × Scanner σ :=
  match s.integer with
  | (.ok value, rest) => (.ok (.number value ⟨s.position, rest.lastEnd⟩), rest)
  | (.error diagnostic, rest) => (.error diagnostic, rest)

/-- A factor; the lookahead alone decides of which kind. -/
def factorOf (inner : Option (Parser σ Expr)) : Parser σ Expr where
  run s :=
    match s.lookahead with
    | some c =>
      if Text.isLetter c then symbol s
      else if c.isDigit then number s
      else if c = '(' then group inner s
      else (.error ⟨.expectedFactor (some c), s.position⟩, s)
    | none => (.error ⟨.expectedFactor none, s.position⟩, s)
  remaining_le s := by
    split
    · split
      · exact Scanner.remaining_identifier_le s
      · split
        · have shorter := Scanner.remaining_integer_le s
          unfold number
          split
          all_goals next h => rw [h] at shorter; exact shorter
        · split
          · exact remaining_group_le inner s
          · exact Nat.le_refl _
    · exact Nat.le_refl _

/-- A factor in which at most `room` more parentheses may be open at once. -/
def factor : Nat → Parser σ Expr
  | 0 => factorOf none
  | room + 1 => factorOf (some (sumOf (factor room)))

def product (room : Nat) : Parser σ Expr := productOf (factor room)
def sum (room : Nat) : Parser σ Expr := sumOf (factor room)

/-- One expression; what follows it is left alone. -/
def parse (s : Scanner σ) : Except Diagnostic Expr × Scanner σ :=
  match (sum nestingLimit).run s with
  | (.ok e, rest) => (.ok e, rest.record (.parsed e rest.atEnd))
  | (.error diagnostic, rest) => (.error diagnostic, rest.record (.parseFailed diagnostic))

/-- One expression and nothing after it. -/
def parseComplete (s : Scanner σ) : Except Diagnostic Expr × Scanner σ :=
  match parse s with
  | (.error diagnostic, rest) => (.error diagnostic, rest)
  | (.ok e, rest) =>
    match rest.lookahead with
    | none => (.ok e, rest)
    | some found => (.error ⟨.trailingInput found, rest.position⟩, rest)

def parseText (text : String) : Except Diagnostic Expr := (parseComplete (Scanner.ofText text)).1

end Parser

end Reckoner
