import Reckoner.Parser

/-! Every way a parse can go, as one relation. `Descent` has one rule for each way the descent
takes and nothing else; `run_factor_iff` and `run_chain_iff` say that the parser takes exactly
these ways. What holds of every parse is proved by induction on it. -/
namespace Reckoner

/-- What is being read. A spine is a chain up to an operand, whether or not the chain ends there. -/
inductive Part where
  | factor
  | spine (power : Power)
  | chain (power : Power)

/-- What a chain is made of. -/
def Power.operand : Power → Part
  | additive => .chain .multiplicative
  | multiplicative => .factor

/-- Whether an operator of this power comes next. -/
def Scanner.Continues {σ : Type} [Source σ] (s : Scanner σ) (power : Power) : Prop :=
  ∃ op, s.operator? = some op ∧ op.power = power

/-- Reading a part with room for so many more parentheses, from a scanner to a result and the
scanner after it. -/
inductive Descent {σ : Type} [Source σ] :
    Part → Nat → Scanner σ → Except Diagnostic Expr → Scanner σ → Prop where
  | symbol {room : Nat} {s : Scanner σ} {c : Char}
      (present : s.lookahead = some c) (letter : Text.isLetter c = true) :
      Descent .factor room s
        (.ok (.symbol s.identifier.1 ⟨s.position, s.identifier.2.lastEnd⟩)) s.identifier.2
  | number {room : Nat} {s rest : Scanner σ} {c : Char} {value : Int64}
      (present : s.lookahead = some c) (other : Text.isLetter c = false)
      (digit : c.isDigit = true) (fits : s.integer = (.ok value, rest)) :
      Descent .factor room s (.ok (.number value ⟨s.position, rest.lastEnd⟩)) rest
  | tooLarge {room : Nat} {s rest : Scanner σ} {c : Char} {diagnostic : Diagnostic}
      (present : s.lookahead = some c) (other : Text.isLetter c = false)
      (digit : c.isDigit = true) (exceeds : s.integer = (.error diagnostic, rest)) :
      Descent .factor room s (.error diagnostic) rest
  | noFactor {room : Nat} {s : Scanner σ}
      (none : ∀ c, s.lookahead = some c →
        Text.isLetter c = false ∧ c.isDigit = false ∧ c ≠ '(') :
      Descent .factor room s (.error ⟨.expectedFactor s.lookahead, s.position⟩) s
  | tooDeep {s : Scanner σ} (present : s.lookahead = some '(') :
      Descent .factor 0 s (.error ⟨.nestingTooDeep nestingLimit, s.position⟩) s
  | group {room : Nat} {s rest : Scanner σ} {e : Expr} (present : s.lookahead = some '(')
      (inner : Descent (.chain .additive) room s.skip (.ok e) rest)
      (closed : rest.lookahead = some ')') :
      Descent .factor (room + 1) s (.ok e) rest.skip
  | unclosed {room : Nat} {s rest : Scanner σ} {e : Expr} (present : s.lookahead = some '(')
      (inner : Descent (.chain .additive) room s.skip (.ok e) rest)
      (missing : rest.lookahead ≠ some ')') :
      Descent .factor (room + 1) s
        (.error ⟨.unexpectedCharacter ')' rest.lookahead, rest.position⟩) rest
  | groupFails {room : Nat} {s rest : Scanner σ} {diagnostic : Diagnostic}
      (present : s.lookahead = some '(')
      (inner : Descent (.chain .additive) room s.skip (.error diagnostic) rest) :
      Descent .factor (room + 1) s (.error diagnostic) rest
  | first {room : Nat} {power : Power} {s rest : Scanner σ} {e : Expr}
      (operand : Descent power.operand room s (.ok e) rest) :
      Descent (.spine power) room s (.ok e) rest
  | again {room : Nat} {power : Power} {s middle rest : Scanner σ} {left right : Expr}
      {op : Operator} (spine : Descent (.spine power) room s (.ok left) middle)
      (found : middle.operator? = some op) (same : op.power = power)
      (operand : Descent power.operand room middle.skip (.ok right) rest) :
      Descent (.spine power) room s (.ok (left.join op middle.position right))
        (rest.record (.reduced op middle.position))
  | ended {room : Nat} {power : Power} {s rest : Scanner σ} {e : Expr}
      (spine : Descent (.spine power) room s (.ok e) rest) (stops : ¬rest.Continues power) :
      Descent (.chain power) room s (.ok e) rest
  | firstFails {room : Nat} {power : Power} {s rest : Scanner σ} {diagnostic : Diagnostic}
      (operand : Descent power.operand room s (.error diagnostic) rest) :
      Descent (.chain power) room s (.error diagnostic) rest
  | againFails {room : Nat} {power : Power} {s middle rest : Scanner σ} {left : Expr}
      {op : Operator} {diagnostic : Diagnostic}
      (spine : Descent (.spine power) room s (.ok left) middle)
      (found : middle.operator? = some op) (same : op.power = power)
      (operand : Descent power.operand room middle.skip (.error diagnostic) rest) :
      Descent (.chain power) room s (.error diagnostic) rest

namespace Parser

variable {σ : Type} [Source σ]

/-- The parser of chains of one power, and the one of their operands. -/
def ofPower (room : Nat) : Power → Parser σ Expr
  | .additive => sum room
  | .multiplicative => product room

def ofOperand (room : Nat) : Power → Parser σ Expr
  | .additive => product room
  | .multiplicative => factor room

theorem ofPower_eq (room : Nat) (power : Power) :
    (ofPower room power : Parser σ Expr) = chain power (ofOperand room power) := by
  cases power <;> rfl

/-- The loop of a chain goes from a spine to the whole chain. -/
theorem descent_chainFrom {room : Nat} {power : Power} {operand : Parser σ Expr}
    (descends : ∀ s, Descent power.operand room s (operand.run s).1 (operand.run s).2)
    {start : Scanner σ} {left : Expr} {s : Scanner σ}
    (spine : Descent (.spine power) room start (.ok left) s) :
    Descent (.chain power) room start (chainFrom power operand left s).1
      (chainFrom power operand left s).2 := by
  fun_induction chainFrom power operand left s with
  | case1 left s op found same right rest read ih =>
    have step := descends s.skip
    rw [read] at step
    exact ih (.again spine found same step)
  | case2 left s op found same diagnostic rest read =>
    have step := descends s.skip
    rw [read] at step
    exact .againFails spine found same step
  | case3 left s op found other =>
    refine .ended spine ?_
    rintro ⟨next, present, same⟩
    rw [found] at present
    exact other (Option.some.inj present ▸ same)
  | case4 left s absent =>
    refine .ended spine ?_
    rintro ⟨next, present, _⟩
    rw [absent] at present
    contradiction

theorem descent_chain {room : Nat} (power : Power) {operand : Parser σ Expr}
    (descends : ∀ s, Descent power.operand room s (operand.run s).1 (operand.run s).2)
    (s : Scanner σ) :
    Descent (.chain power) room s ((chain power operand).run s).1
      ((chain power operand).run s).2 := by
  have step := descends s
  simp only [chain]
  split
  · next e rest read =>
    rw [read] at step
    exact descent_chainFrom descends (.first step)
  · next diagnostic rest read =>
    rw [read] at step
    exact .firstFails step

theorem descent_number {room : Nat} {s : Scanner σ} {c : Char} (present : s.lookahead = some c)
    (other : Text.isLetter c = false) (digit : c.isDigit = true) :
    Descent .factor room s (number s).1 (number s).2 := by
  unfold number
  split
  · next fits => exact .number present other digit fits
  · next exceeds => exact .tooLarge present other digit exceeds

theorem descent_group {room : Nat} {inner : Parser σ Expr}
    (descends : ∀ s, Descent (.chain .additive) room s (inner.run s).1 (inner.run s).2)
    {s : Scanner σ} (present : s.lookahead = some '(') :
    Descent .factor (room + 1) s (group (some inner) s).1 (group (some inner) s).2 := by
  have step := descends s.skip
  simp only [group]
  split
  · next diagnostic rest read =>
    rw [read] at step
    exact .groupFails present step
  · next e rest read =>
    rw [read] at step
    by_cases closed : rest.lookahead = some ')'
    · simpa [Scanner.expect, closed] using .group present step closed
    · simpa [Scanner.expect, closed] using .unclosed present step closed

theorem descent_factorOf {room : Nat} {inner : Option (Parser σ Expr)}
    (opened : ∀ s : Scanner σ, s.lookahead = some '(' →
      Descent .factor room s (group inner s).1 (group inner s).2) (s : Scanner σ) :
    Descent .factor room s ((factorOf inner).run s).1 ((factorOf inner).run s).2 := by
  simp only [factorOf]
  split
  · next c present =>
    split
    · next letter => exact .symbol present letter
    · next other =>
      have other : Text.isLetter c = false := by simpa using other
      split
      · next digit => exact descent_number present other digit
      · next plain =>
        have plain : c.isDigit = false := by simpa using plain
        split
        · next paren => exact opened s (paren ▸ present)
        · next strange =>
          rw [← present]
          refine .noFactor fun d same => ?_
          obtain rfl := Option.some.inj (present.symm.trans same)
          exact ⟨other, plain, strange⟩
  · next absent =>
    rw [← absent]
    exact .noFactor fun c present => by simp [absent] at present

/-- Every reading of a factor is a descent. The induction is on the room for parentheses. -/
theorem descent_factor (room : Nat) (s : Scanner σ) :
    Descent .factor room s ((factor room).run s).1 ((factor room).run s).2 := by
  induction room generalizing s with
  | zero => exact descent_factorOf (fun _ present => .tooDeep present) s
  | succ room ih =>
    have products := descent_chain .multiplicative ih
    have sums := descent_chain .additive products
    exact descent_factorOf (fun _ present => descent_group sums present) s

theorem descent_ofOperand (room : Nat) (power : Power) (s : Scanner σ) :
    Descent power.operand room s ((ofOperand room power).run s).1
      ((ofOperand room power).run s).2 := by
  cases power with
  | additive => exact descent_chain .multiplicative (descent_factor room) s
  | multiplicative => exact descent_factor room s

theorem descent_ofPower (room : Nat) (power : Power) (s : Scanner σ) :
    Descent (.chain power) room s ((ofPower room power).run s).1 ((ofPower room power).run s).2 := by
  rw [ofPower_eq]
  exact descent_chain power (descent_ofOperand room power) s

/-- What the parser does along a descent. At the end of a spine it stands in the loop of the
chain. -/
def Follows (part : Part) (room : Nat) (s : Scanner σ) (result : Except Diagnostic Expr)
    (rest : Scanner σ) : Prop :=
  match part with
  | .factor => (factor room).run s = (result, rest)
  | .spine power => ∀ e, result = .ok e →
    (ofPower room power).run s = chainFrom power (ofOperand room power) e rest
  | .chain power => (ofPower room power).run s = (result, rest)

theorem follows_operand {room : Nat} {power : Power} {s rest : Scanner σ}
    {result : Except Diagnostic Expr} (h : Follows power.operand room s result rest) :
    (ofOperand room power).run s = (result, rest) := by
  cases power <;> exact h

theorem run_factor_of_paren {inner : Option (Parser σ Expr)} {s : Scanner σ}
    (present : s.lookahead = some '(') : (factorOf inner).run s = group inner s := by
  have other : Text.isLetter '(' = false := by decide
  simp [factorOf, present, other]

theorem chainFrom_of_not_continues {power : Power} {operand : Parser σ Expr} {left : Expr}
    {s : Scanner σ} (stops : ¬s.Continues power) :
    chainFrom power operand left s = (.ok left, s) := by
  unfold chainFrom
  split
  · next op found =>
    split
    · next same => exact absurd ⟨op, found, same⟩ stops
    · rfl
  · rfl

theorem chainFrom_of_operator {power : Power} {operand : Parser σ Expr} {left : Expr}
    {s rest : Scanner σ} {op : Operator} {result : Except Diagnostic Expr}
    (found : s.operator? = some op) (same : op.power = power)
    (read : operand.run s.skip = (result, rest)) :
    chainFrom power operand left s = match result with
      | .ok right => chainFrom power operand (left.join op s.position right)
          (rest.record (.reduced op s.position))
      | .error diagnostic => (.error diagnostic, rest) := by
  rw [chainFrom]
  split
  · next next present =>
    obtain rfl := Option.some.inj (found.symm.trans present)
    rw [if_pos same]
    split
    all_goals next met =>
      obtain ⟨rfl, rfl⟩ := Prod.mk.inj (read.symm.trans met)
      rfl
  · next absent =>
    rw [found] at absent
    contradiction

/-- The parser follows every descent, so a descent from a scanner has only one outcome. -/
theorem follows_of_descent {part : Part} {room : Nat} {s rest : Scanner σ}
    {result : Except Diagnostic Expr} (h : Descent part room s result rest) :
    Follows part room s result rest := by
  induction h with
  | @symbol room s c present letter =>
    cases room <;> simp [Follows, factor, factorOf, present, letter, symbol]
  | @number room s rest c value present other digit fits =>
    cases room <;> simp [Follows, factor, factorOf, present, other, digit, Parser.number, fits]
  | @tooLarge room s rest c diagnostic present other digit exceeds =>
    cases room <;> simp [Follows, factor, factorOf, present, other, digit, Parser.number, exceeds]
  | @noFactor room s none =>
    cases present : s.lookahead with
    | none => cases room <;> simp [Follows, factor, factorOf, present]
    | some c =>
      obtain ⟨other, plain, strange⟩ := none c present
      cases room <;> simp [Follows, factor, factorOf, present, other, plain, strange]
  | tooDeep present => exact run_factor_of_paren present
  | @group room s rest e present inner closed ih =>
    have ih : (sumOf (factor room)).run s.skip = (.ok e, rest) := ih
    rw [Follows, factor, run_factor_of_paren present]
    simp [Parser.group, ih, Scanner.expect, closed]
  | @unclosed room s rest e present inner missing ih =>
    have ih : (sumOf (factor room)).run s.skip = (.ok e, rest) := ih
    rw [Follows, factor, run_factor_of_paren present]
    simp [Parser.group, ih, Scanner.expect, missing]
  | @groupFails room s rest diagnostic present inner ih =>
    have ih : (sumOf (factor room)).run s.skip = (.error diagnostic, rest) := ih
    rw [Follows, factor, run_factor_of_paren present]
    simp [Parser.group, ih]
  | first operand ih =>
    rintro e ⟨⟩
    simp only [ofPower_eq, chain, follows_operand ih]
  | again spine found same operand ihs iho =>
    rintro e ⟨⟩
    rw [ihs _ rfl, chainFrom_of_operator found same (follows_operand iho)]
  | ended spine stops ih => exact (ih _ rfl).trans (chainFrom_of_not_continues stops)
  | firstFails operand ih => simp only [Follows, ofPower_eq, chain, follows_operand ih]
  | againFails spine found same operand ihs iho =>
    exact (ihs _ rfl).trans (chainFrom_of_operator found same (follows_operand iho))

theorem run_factor_iff {room : Nat} {s rest : Scanner σ} {result : Except Diagnostic Expr} :
    (factor room).run s = (result, rest) ↔ Descent .factor room s result rest := by
  constructor
  · intro h
    have descent := descent_factor room s
    rwa [h] at descent
  · exact follows_of_descent

theorem run_chain_iff {room : Nat} {power : Power} {s rest : Scanner σ}
    {result : Except Diagnostic Expr} :
    (ofPower room power).run s = (result, rest) ↔ Descent (.chain power) room s result rest := by
  constructor
  · intro h
    have descent := descent_ofPower room power s
    rwa [h] at descent
  · exact follows_of_descent

theorem parse_eq (s : Scanner σ) :
    ∃ event, parse s =
      (((sum nestingLimit).run s).1, ((sum nestingLimit).run s).2.record event) := by
  unfold parse
  split
  · next e rest read => exact ⟨.parsed e rest.atEnd, by rw [read]⟩
  · next diagnostic rest read => exact ⟨.parseFailed diagnostic, by rw [read]⟩

theorem parseComplete_fst (s : Scanner σ) :
    (parseComplete s).1 =
      match ((sum nestingLimit).run s).1, ((sum nestingLimit).run s).2.lookahead with
      | .error diagnostic, _ => .error diagnostic
      | .ok e, none => .ok e
      | .ok _, some c => .error ⟨.trailingInput c, ((sum nestingLimit).run s).2.position⟩ := by
  obtain ⟨event, parsed⟩ := parse_eq s
  rw [parseComplete, parsed]
  rcases (sum nestingLimit).run s with ⟨diagnostic | e, rest⟩
  · rfl
  · cases present : rest.lookahead <;> simp [Scanner.record, present]

theorem parseComplete_snd (s : Scanner σ) : (parseComplete s).2 = (parse s).2 := by
  unfold parseComplete
  split
  · next read => rw [read]
  · next read =>
    rw [read]
    split <;> rfl

theorem parseComplete_ok_iff {s : Scanner σ} {e : Expr} :
    (parseComplete s).1 = .ok e ↔ ∃ rest : Scanner σ,
      Descent (.chain .additive) nestingLimit s (.ok e) rest ∧ rest.lookahead = none := by
  rw [parseComplete_fst]
  constructor
  · intro h
    split at h
    · contradiction
    · next f read absent =>
      obtain rfl := Except.ok.inj h
      exact ⟨_, run_chain_iff.mp (Prod.ext read rfl), absent⟩
    · contradiction
  · rintro ⟨rest, h, absent⟩
    have read : (sum nestingLimit).run s = (.ok e, rest) := run_chain_iff.mpr h
    rw [read, absent]

theorem parseComplete_of_descent_error {s rest : Scanner σ} {diagnostic : Diagnostic}
    (h : Descent (.chain .additive) nestingLimit s (.error diagnostic) rest) :
    (parseComplete s).1 = .error diagnostic := by
  have read : (sum nestingLimit).run s = (.error diagnostic, rest) := run_chain_iff.mpr h
  rw [parseComplete_fst, read]

theorem parseComplete_of_trailing {s rest : Scanner σ} {e : Expr} {c : Char}
    (h : Descent (.chain .additive) nestingLimit s (.ok e) rest)
    (present : rest.lookahead = some c) :
    (parseComplete s).1 = .error ⟨.trailingInput c, rest.position⟩ := by
  have read : (sum nestingLimit).run s = (.ok e, rest) := run_chain_iff.mpr h
  rw [parseComplete_fst, read, present]

theorem exists_descent (s : Scanner σ) : ∃ result rest,
    Descent (.chain .additive) nestingLimit s result rest :=
  ⟨_, _, descent_ofPower nestingLimit .additive s⟩

/-- A text is refused where the descent fails, or where it is over and the text is not. -/
theorem of_parseComplete_error {s : Scanner σ} {diagnostic : Diagnostic}
    (h : (parseComplete s).1 = .error diagnostic) :
    (∃ rest, Descent (.chain .additive) nestingLimit s (.error diagnostic) rest) ∨
    ∃ e rest c, Descent (.chain .additive) nestingLimit s (.ok e) rest ∧
      rest.lookahead = some c ∧ diagnostic = ⟨.trailingInput c, rest.position⟩ := by
  obtain ⟨result, rest, descent⟩ := exists_descent s
  cases result with
  | error met =>
    obtain rfl := Except.error.inj (h.symm.trans (parseComplete_of_descent_error descent))
    exact .inl ⟨rest, descent⟩
  | ok e =>
    cases present : rest.lookahead with
    | none =>
      rw [parseComplete_ok_iff.mpr ⟨rest, descent, present⟩] at h
      contradiction
    | some c =>
      have met := h.symm.trans (parseComplete_of_trailing descent present)
      exact .inr ⟨e, rest, c, descent, present, Except.error.inj met⟩

end Parser

end Reckoner
