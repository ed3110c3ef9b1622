import Reckoner.Proofs.Descent
import Reckoner.Proofs.Tokens

/-! The grammar, and that the parser accepts exactly its phrases.

```text
sum     := product (('+' | '-') product)*
product := factor (('*' | '/') factor)*
factor  := word | literal | '(' sum ')'
```

`Derives` is this grammar over the tokens of a text and knows nothing of scanners. A spine that
grows by one operand at a time is a repetition folded to the left. Every successful descent
derives what it took (`Descent.derives`), and whatever is derived within the limit is read
(`Derives.descent`). -/
namespace Reckoner

/-- A tree without the places of its nodes. -/
inductive Shape where
  | number (value : Int64)
  | symbol (name : String)
  | binary (operator : Operator) (left right : Shape)
  deriving DecidableEq, Repr

def Expr.shape : Expr → Shape
  | number value _ => .number value
  | symbol name _ => .symbol name
  | binary operator _ left right _ => .binary operator left.shape right.shape

theorem Expr.shape_binary_eq {op : Operator} {p q : Nat} {left right left' right' : Expr} {s t : Span}
    (lefts : left.shape = left'.shape) (rights : right.shape = right'.shape) :
    (binary op p left right s).shape = (binary op q left' right' t).shape := by
  rw [shape, shape, lefts, rights]

/-- Trees of one shape are taken apart together. -/
@[elab_as_elim]
theorem Expr.induction_of_shape_eq {motive : (a b : Expr) → a.shape = b.shape → Prop}
    (number : ∀ value s t, motive (number value s) (number value t) rfl)
    (symbol : ∀ name s t, motive (symbol name s) (symbol name t) rfl)
    (binary : ∀ op p q left right left' right' s t (lefts : left.shape = left'.shape)
      (rights : right.shape = right'.shape), motive left left' lefts → motive right right' rights →
      motive (binary op p left right s) (binary op q left' right' t) (shape_binary_eq lefts rights))
    {a b : Expr} (same : a.shape = b.shape) : motive a b same := by
  induction a generalizing b with
  | number value s =>
    cases b with
    | number =>
      obtain rfl := Shape.number.inj same
      exact number ..
    | symbol | binary => contradiction
  | symbol name s =>
    cases b with
    | symbol =>
      obtain rfl := Shape.symbol.inj same
      exact symbol ..
    | number | binary => contradiction
  | binary op p left right s ihl ihr =>
    cases b with
    | binary =>
      obtain ⟨rfl, lefts, rights⟩ := Shape.binary.inj same
      exact binary _ _ _ _ _ _ _ _ _ lefts rights (ihl lefts) (ihr rights)
    | number | symbol => contradiction

/-- The characters that join operands, by how tightly they bind. -/
inductive Joins : Power → Char → Operator → Prop where
  | plus : Joins .additive '+' .plus
  | minus : Joins .additive '-' .minus
  | times : Joins .multiplicative '*' .times
  | divide : Joins .multiplicative '/' .divide

/-- The phrases of the grammar: their tokens, their tree and how deep their parentheses nest. A
literal stands for its decimal value, which must fit in a word. -/
inductive Derives : Part → List Token → Shape → Nat → Prop where
  | word (name : List Char) : Derives .factor [.word name] (.symbol (String.ofList name)) 0
  | literal {digits : List Char} (fits : Nat.ofDigitChars 10 digits 0 ≤ 2 ^ 63 - 1) :
      Derives .factor [.literal digits] (.number (Int64.ofInt (Nat.ofDigitChars 10 digits 0))) 0
  | group {ts : List Token} {shape : Shape} {depth : Nat}
      (inner : Derives (.chain .additive) ts shape depth) :
      Derives .factor (.mark '(' :: ts ++ [.mark ')']) shape (depth + 1)
  | first {power : Power} {ts : List Token} {shape : Shape} {depth : Nat}
      (operand : Derives power.operand ts shape depth) : Derives (.spine power) ts shape depth
  | again {power : Power} {ls rs : List Token} {left right : Shape} {m n : Nat} {c : Char}
      {op : Operator} (spine : Derives (.spine power) ls left m) (joins : Joins power c op)
      (operand : Derives power.operand rs right n) :
      Derives (.spine power) (ls ++ .mark c :: rs) (.binary op left right) (max m n)
  | ended {power : Power} {ts : List Token} {shape : Shape} {depth : Nat}
      (spine : Derives (.spine power) ts shape depth) : Derives (.chain power) ts shape depth

namespace Joins

variable {p q : Power} {c : Char} {op other : Operator}

theorem ofOperator (op : Operator) : Joins op.power op.symbol op := by
  cases op <;> constructor

theorem power_eq (h : Joins p c op) : op.power = p := by cases h <;> rfl

theorem ofSymbol?_eq (h : Joins p c op) : Operator.ofSymbol? c = some op := by
  cases h <;> rfl

theorem power_unique (h : Joins p c op) (k : Joins q c other) : p = q := by
  have same := h.ofSymbol?_eq.symm.trans k.ofSymbol?_eq
  rw [← h.power_eq, ← k.power_eq, Option.some.inj same]

end Joins

/-- Whether tokens go on with an operator of this power. -/
def Resumes (power : Power) (ts : List Token) : Prop :=
  ∃ c op rest, ts = .mark c :: rest ∧ Joins power c op

/-- Whether a part is over before the given tokens: no operator follows that would still belong
to it. -/
def Part.Ends : Part → List Token → Prop
  | .factor, _ => True
  | .spine power, ts => ∀ q, power < q → ¬Resumes q ts
  | .chain power, ts => ∀ q, ¬q < power → ¬Resumes q ts

theorem Part.ends_operand {power : Power} {ts : List Token} (h : (Part.spine power).Ends ts) :
    power.operand.Ends ts := by
  cases power with
  | additive =>
    intro q tighter
    exact h q (by cases q <;> revert tighter <;> decide)
  | multiplicative => trivial

theorem Part.ends_spine {power : Power} {ts : List Token} (h : (Part.chain power).Ends ts) :
    (Part.spine power).Ends ts := by
  intro q tighter
  refine h q ?_
  cases power <;> cases q <;> revert tighter <;> decide

theorem Part.ends_of_joins {power : Power} {c : Char} {op : Operator} {ts : List Token}
    (joins : Joins power c op) : (Part.spine power).Ends (.mark c :: ts) := by
  rintro q tighter ⟨d, other, rest, same, resumes⟩
  obtain ⟨rfl, _⟩ : c = d ∧ ts = rest := by simpa using same
  obtain rfl := joins.power_unique resumes
  revert tighter
  cases power <;> decide

theorem Part.ends_of_closing (power : Power) (ts : List Token) :
    (Part.chain power).Ends (.mark ')' :: ts) := by
  rintro q _ ⟨c, op, rest, same, resumes⟩
  obtain ⟨rfl, _⟩ : ')' = c ∧ ts = rest := by simpa using same
  cases resumes

theorem Part.ends_nil (power : Power) : (Part.chain power).Ends [] := by
  rintro q _ ⟨c, op, rest, same, _⟩
  contradiction

namespace Scanner

variable {σ : Type} [Source σ] {s : Scanner σ}

theorem tokens_of_operator {op : Operator} (settled : s.Settled) (found : s.operator? = some op) :
    s.tokens = .mark op.symbol :: s.skip.tokens := by
  refine tokens_of_mark settled (lookahead_of_operator? found) ?_ ?_
  all_goals cases op <;> decide

theorem operator?_of_joins {power : Power} {c : Char} {op : Operator} (joins : Joins power c op)
    (present : s.lookahead = some c) : s.operator? = some op := by
  rw [operator?, present, Option.bind_some, joins.ofSymbol?_eq]

theorem not_continues {power : Power} (settled : s.Settled) (stops : ¬Resumes power s.tokens) :
    ¬s.Continues power := by
  rintro ⟨op, found, rfl⟩
  exact stops ⟨op.symbol, op, _, tokens_of_operator settled found, .ofOperator op⟩

end Scanner

variable {σ : Type} [Source σ] {part : Part} {room : Nat} {s rest : Scanner σ}
  {result : Except Diagnostic Expr}

/-- A parse stops between tokens, also where it fails. -/
theorem Descent.settled (h : Descent part room s result rest) (settled : s.Settled) :
    rest.Settled := by
  induction h with
  | symbol => exact Scanner.settled_identifier _
  | @number room s rest c value present other digit fits =>
    have settled := s.settled_integer
    rwa [fits] at settled
  | @tooLarge room s rest c diagnostic present other digit exceeds =>
    have settled := s.settled_integer
    rwa [exceeds] at settled
  | noFactor | tooDeep => exact settled
  | group => exact Scanner.settled_skip _
  | unclosed _ _ _ ih | groupFails _ _ ih => exact ih (Scanner.settled_skip _)
  | first _ ih | ended _ _ ih | firstFails _ ih => exact ih settled
  | again _ _ _ _ _ ih | againFails _ _ _ _ _ ih => exact ih (Scanner.settled_skip _)

/-- Soundness: what a descent has read is a phrase, and it took the tokens of that phrase. -/
theorem Descent.derives (h : Descent part room s result rest) (settled : s.Settled) {e : Expr}
    (ok : result = .ok e) :
    ∃ ts depth, depth ≤ room ∧ Derives part ts e.shape depth ∧ s.tokens = ts ++ rest.tokens := by
  induction h generalizing e with
  | @symbol room s c present letter =>
    obtain rfl := Except.ok.inj ok
    have read := Derives.word s.identifier.1.toList
    rw [String.ofList_toList] at read
    exact ⟨_, 0, Nat.zero_le _, read, Scanner.tokens_of_letter settled present letter⟩
  | @number room s rest c value present other digit fits =>
    obtain rfl := Except.ok.inj ok
    obtain ⟨small, rfl⟩ := Scanner.of_integer_ok fits
    have met := Scanner.tokens_of_digit settled present other digit
    rw [fits] at met
    exact ⟨_, 0, Nat.zero_le _, .literal small, met⟩
  | tooLarge | noFactor | tooDeep | unclosed | groupFails | firstFails | againFails =>
    contradiction
  | @group room s rest f present inner closed ih =>
    obtain ⟨ts, depth, within, derived, met⟩ := ih (Scanner.settled_skip s) ok
    have opening := Scanner.tokens_of_mark settled present (by decide) (by decide)
    have closing := Scanner.tokens_of_mark (inner.settled (Scanner.settled_skip s)) closed
      (by decide) (by decide)
    refine ⟨_, _, Nat.succ_le_succ within, .group derived, ?_⟩
    rw [opening, met, closing]
    simp
  | first operand ih =>
    obtain ⟨ts, depth, within, derived, met⟩ := ih settled ok
    exact ⟨ts, depth, within, .first derived, met⟩
  | @again room power s middle rest left right op spine found same operand ihs iho =>
    obtain rfl := Except.ok.inj ok
    obtain ⟨ls, m, within, leftDerived, leftMet⟩ := ihs settled rfl
    obtain ⟨rs, n, withinRight, rightDerived, rightMet⟩ := iho (Scanner.settled_skip middle) rfl
    have mark := Scanner.tokens_of_operator (spine.settled settled) found
    have joins : Joins power op.symbol op := same ▸ .ofOperator op
    refine ⟨_, _, Nat.max_le.mpr ⟨within, withinRight⟩, .again leftDerived joins rightDerived, ?_⟩
    rw [leftMet, mark, rightMet]
    simp
  | ended spine stops ih =>
    obtain ⟨ts, depth, within, derived, met⟩ := ih settled ok
    exact ⟨ts, depth, within, .ended derived, met⟩

/-- Completeness: where the tokens of a phrase come next and the phrase is over after them, it is
read, if its parentheses have room. -/
theorem Derives.descent {ts after : List Token} {shape : Shape} {depth : Nat}
    (h : Derives part ts shape depth) (within : depth ≤ room) (settled : s.Settled)
    (met : s.tokens = ts ++ after) (ends : part.Ends after) :
    ∃ e rest, Expr.shape e = shape ∧ Scanner.tokens rest = after ∧
      Descent part room s (.ok e) rest := by
  induction h generalizing room s after with
  | word name =>
    obtain ⟨⟨c, present, letter⟩, read, rest⟩ := Scanner.of_tokens_word settled met
    refine ⟨_, _, ?_, rest, .symbol present letter⟩
    exact congrArg Shape.symbol read
  | literal fits =>
    obtain ⟨⟨c, present, other, digit⟩, rfl, rest⟩ := Scanner.of_tokens_literal settled met
    exact ⟨_, _, rfl, rest, .number present other digit (Scanner.integer_of_fits fits)⟩
  | @group ts shape depth inner ih =>
    obtain ⟨room, rfl⟩ := Nat.exists_eq_add_of_le' (Nat.le_trans (Nat.le_add_left 1 depth) within)
    simp only [List.cons_append, List.append_assoc, List.nil_append] at met
    obtain ⟨present, inside⟩ := Scanner.of_tokens_mark settled met
    obtain ⟨e, middle, rfl, closing, descent⟩ := ih (Nat.le_of_succ_le_succ within)
      (Scanner.settled_skip s) inside (Part.ends_of_closing _ _)
    obtain ⟨closed, rest⟩ :=
      Scanner.of_tokens_mark (descent.settled (Scanner.settled_skip s)) closing
    exact ⟨e, middle.skip, rfl, rest, .group present descent closed⟩
  | first operand ih =>
    obtain ⟨e, rest, same, left, descent⟩ := ih within settled met (Part.ends_operand ends)
    exact ⟨e, rest, same, left, .first descent⟩
  | @again power ls rs left right m n c op spine joins operand ihs iho =>
    obtain ⟨withinLeft, withinRight⟩ := Nat.max_le.mp within
    simp only [List.append_assoc, List.cons_append] at met
    obtain ⟨f, middle, rfl, tail, first⟩ := ihs withinLeft settled met (Part.ends_of_joins joins)
    obtain ⟨present, tail⟩ := Scanner.of_tokens_mark (first.settled settled) tail
    obtain ⟨g, rest, rfl, left, second⟩ := iho withinRight (Scanner.settled_skip middle) tail
      (Part.ends_operand ends)
    have found := Scanner.operator?_of_joins joins present
    refine ⟨_, _, ?_, ?_, .again first found joins.power_eq second⟩
    · rfl
    · exact left
  | @ended power ts shape depth spine ih =>
    obtain ⟨e, rest, same, rfl, descent⟩ := ih within settled met (Part.ends_spine ends)
    have stops := Scanner.not_continues (descent.settled settled)
      (ends power (by cases power <;> decide))
    exact ⟨e, rest, same, rfl, .ended descent stops⟩

def Part.whole : Part → Part
  | .spine power => .chain power
  | part => part

theorem Part.whole_operand (power : Power) : power.operand.whole = power.operand := by
  cases power <;> rfl

/-- A phrase whose parentheses have no room is refused as too deep. The operands before the first
parenthesis that is one too many are read, by completeness. -/
theorem Derives.tooDeep {ts after : List Token} {shape : Shape} {depth : Nat}
    (h : Derives part ts shape depth) (exceeds : room < depth) (settled : s.Settled)
    (met : s.tokens = ts ++ after) :
    ∃ diagnostic rest, diagnostic.fault = .nestingTooDeep nestingLimit ∧
      Descent part.whole room s (.error diagnostic) rest := by
  induction h generalizing room s after with
  | word | literal => exact absurd exceeds (Nat.not_lt_zero room)
  | @group ts shape depth inner ih =>
    simp only [List.cons_append, List.append_assoc, List.nil_append] at met
    obtain ⟨present, inside⟩ := Scanner.of_tokens_mark settled met
    cases room with
    | zero => exact ⟨_, s, rfl, .tooDeep present⟩
    | succ room =>
      obtain ⟨d, rest, deep, descent⟩ :=
        ih (Nat.lt_of_succ_lt_succ exceeds) (Scanner.settled_skip s) inside
      exact ⟨d, rest, deep, .groupFails present descent⟩
  | @first power ts shape depth operand ih =>
    obtain ⟨d, rest, deep, descent⟩ := ih exceeds settled met
    rw [Part.whole_operand] at descent
    exact ⟨d, rest, deep, .firstFails descent⟩
  | @again power ls rs left right m n c op spine joins operand ihs iho =>
    simp only [List.append_assoc, List.cons_append] at met
    by_cases early : room < m
    · exact ihs early settled met
    · have late : room < n := by omega
      obtain ⟨e, middle, _, tail, first⟩ :=
        spine.descent (Nat.not_lt.mp early) settled met (Part.ends_of_joins joins)
      obtain ⟨present, tail⟩ := Scanner.of_tokens_mark (first.settled settled) tail
      obtain ⟨d, rest, deep, second⟩ := iho late (Scanner.settled_skip middle) tail
      rw [Part.whole_operand] at second
      have found := Scanner.operator?_of_joins joins present
      exact ⟨d, rest, deep, .againFails first found joins.power_eq second⟩
  | ended spine ih => exact ih exceeds settled met

theorem Scanner.settled_ofText (text : String) : (Scanner.ofText text).Settled :=
  Scanner.settled_ofSource _

theorem Scanner.tokens_ofText (text : String) :
    (Scanner.ofText text).tokens = Text.tokens text.toList := by
  simp [Scanner.ofText]

theorem derives_of_parseText {text : String} {e : Expr} (h : Parser.parseText text = .ok e) :
    ∃ depth ≤ nestingLimit,
      Derives (.chain .additive) (Text.tokens text.toList) e.shape depth := by
  obtain ⟨rest, descent, absent⟩ := Parser.parseComplete_ok_iff.mp h
  obtain ⟨ts, depth, within, derived, met⟩ := descent.derives (Scanner.settled_ofText text) rfl
  rw [Scanner.tokens_of_none absent, List.append_nil, Scanner.tokens_ofText] at met
  exact ⟨depth, within, met ▸ derived⟩

theorem Derives.parseText {text : String} {shape : Shape} {depth : Nat}
    (h : Derives (.chain .additive) (Text.tokens text.toList) shape depth)
    (within : depth ≤ nestingLimit) :
    ∃ e, Parser.parseText text = .ok e ∧ e.shape = shape := by
  rw [← Scanner.tokens_ofText] at h
  have settled := Scanner.settled_ofText text
  obtain ⟨e, rest, same, left, descent⟩ :=
    h.descent within settled (List.append_nil _).symm (Part.ends_nil _)
  have absent := Scanner.of_tokens_nil (descent.settled settled) left
  exact ⟨e, Parser.parseComplete_ok_iff.mpr ⟨rest, descent, absent⟩, same⟩

/-- The parser accepts exactly the phrases of the grammar whose parentheses nest at most 256 deep,
and gives the tree of the phrase. -/
theorem parseText_ok_iff_derives (text : String) (shape : Shape) :
    (∃ e, Parser.parseText text = .ok e ∧ e.shape = shape) ↔
      ∃ depth ≤ 256, Derives (.chain .additive) (Text.tokens text.toList) shape depth := by
  constructor
  · rintro ⟨e, read, rfl⟩
    exact derives_of_parseText read
  · rintro ⟨depth, within, derived⟩
    exact derived.parseText within

end Reckoner
