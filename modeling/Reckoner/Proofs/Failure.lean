import Reckoner.Proofs.Lockstep

/-! Where a parse fails. A failing parse has gone into open parentheses and past operands it has
read, down to one factor (`Leads`), and it is that factor that fails of its own accord (`Refused`).
What stands before the factor only waits for it: with any factor in its place, and the open
parentheses closed, the part is read (`Leads.awaits`). -/
namespace Reckoner

variable {σ τ : Type} [Source σ] [Source τ]

/-- A parse takes whole lexemes, also where it fails. -/
theorem Descent.lexemes {part : Part} {room : Nat} {s rest : Scanner σ}
    {result : Except Diagnostic Expr} (h : Descent part room s result rest) (settled : s.Settled) :
    rest.lexemes <:+ s.lexemes := by
  induction h with
  | symbol present letter =>
    rw [Scanner.lexemes_of_letter settled present letter]
    exact List.suffix_cons ..
  | @number room s rest c value present other digit fits =>
    rw [Scanner.lexemes_of_digit settled present other digit, fits]
    exact List.suffix_cons ..
  | @tooLarge room s rest c diagnostic present other digit exceeds =>
    rw [Scanner.lexemes_of_digit settled present other digit, exceeds]
    exact List.suffix_cons ..
  | noFactor | tooDeep => exact List.suffix_rfl
  | @group room s rest e present inner closed ih =>
    have inside := inner.settled (Scanner.settled_skip s)
    have opening := Scanner.lexemes_of_opening settled present
    have closing := Scanner.lexemes_of_mark inside closed (by decide) (by decide)
    have middle := ih (Scanner.settled_skip s)
    rw [closing] at middle
    rw [opening]
    exact ((List.suffix_cons ..).trans middle).trans (List.suffix_cons ..)
  | @unclosed room s rest e present inner missing ih =>
    rw [Scanner.lexemes_of_opening settled present]
    exact (ih (Scanner.settled_skip s)).trans (List.suffix_cons ..)
  | @groupFails room s rest diagnostic present inner ih =>
    rw [Scanner.lexemes_of_opening settled present]
    exact (ih (Scanner.settled_skip s)).trans (List.suffix_cons ..)
  | first _ ih | ended _ _ ih | firstFails _ ih => exact ih settled
  | again spine found same operand ihs iho | againFails spine found same operand ihs iho =>
    have front := ihs settled
    rw [Scanner.lexemes_of_operator (spine.settled settled) found] at front
    exact ((iho (Scanner.settled_skip _)).trans (List.suffix_cons ..)).trans front

/-- The way from the start of a part to the start of a factor in it, with the room that is left
there. -/
inductive Leads : Part → Nat → Scanner σ → Nat → Scanner σ → Prop where
  | here {room : Nat} {s : Scanner σ} : Leads .factor room s room s
  | inside {room left : Nat} {s u : Scanner σ} (present : s.lookahead = some '(')
      (inner : Leads (.chain .additive) room s.skip left u) : Leads .factor (room + 1) s left u
  | first {room left : Nat} {power : Power} {s u : Scanner σ}
      (operand : Leads power.operand room s left u) : Leads (.chain power) room s left u
  | again {room left : Nat} {power : Power} {s middle u : Scanner σ} {e : Expr} {op : Operator}
      (spine : Descent (.spine power) room s (.ok e) middle)
      (found : middle.operator? = some op) (same : op.power = power)
      (operand : Leads power.operand room middle.skip left u) : Leads (.chain power) room s left u

/-- A factor that fails though nothing inside it does. -/
inductive Refused : Nat → Scanner σ → Diagnostic → Scanner σ → Prop where
  | tooLarge {room : Nat} {s rest : Scanner σ} {c : Char} {diagnostic : Diagnostic}
      (present : s.lookahead = some c) (other : Text.isLetter c = false)
      (digit : c.isDigit = true) (exceeds : s.integer = (.error diagnostic, rest)) :
      Refused room s diagnostic rest
  | noFactor {room : Nat} {s : Scanner σ}
      (none : ∀ c, s.lookahead = some c →
        Text.isLetter c = false ∧ c.isDigit = false ∧ c ≠ '(') :
      Refused room s ⟨.expectedFactor s.lookahead, s.position⟩ s
  | tooDeep {s : Scanner σ} (present : s.lookahead = some '(') :
      Refused 0 s ⟨.nestingTooDeep nestingLimit, s.position⟩ s
  | unclosed {room : Nat} {s rest : Scanner σ} {e : Expr} (present : s.lookahead = some '(')
      (inner : Descent (.chain .additive) room s.skip (.ok e) rest)
      (missing : rest.lookahead ≠ some ')') :
      Refused (room + 1) s ⟨.unexpectedCharacter ')' rest.lookahead, rest.position⟩ rest

variable {part : Part} {room left : Nat} {s u rest : Scanner σ} {result : Except Diagnostic Expr}
  {diagnostic : Diagnostic}

/-- Every failure is that of a factor, on the way to which nothing failed. -/
theorem Descent.refused (h : Descent part room s result rest)
    (failed : result = .error diagnostic) :
    ∃ left u, Leads part room s left u ∧ Refused left u diagnostic rest := by
  induction h with
  | symbol | number | group | first | again | ended => contradiction
  | tooLarge present other digit exceeds =>
    obtain rfl := Except.error.inj failed
    exact ⟨_, _, .here, .tooLarge present other digit exceeds⟩
  | noFactor none =>
    obtain rfl := Except.error.inj failed
    exact ⟨_, _, .here, .noFactor none⟩
  | tooDeep present =>
    obtain rfl := Except.error.inj failed
    exact ⟨_, _, .here, .tooDeep present⟩
  | unclosed present inner missing =>
    obtain rfl := Except.error.inj failed
    exact ⟨_, _, .here, .unclosed present inner missing⟩
  | groupFails present inner ih =>
    obtain ⟨left, u, path, refused⟩ := ih failed
    exact ⟨left, u, .inside present path, refused⟩
  | firstFails operand ih =>
    obtain ⟨left, u, path, refused⟩ := ih failed
    exact ⟨left, u, .first path, refused⟩
  | againFails spine found same operand ihs iho =>
    obtain ⟨left, u, path, refused⟩ := iho failed
    exact ⟨left, u, .again spine found same path, refused⟩

theorem Refused.not_trailing (h : Refused room s diagnostic rest) (c : Char) :
    diagnostic.fault ≠ .trailingInput c := by
  cases h with
  | tooLarge present other digit exceeds =>
    obtain rfl := Scanner.of_integer_error exceeds
    simp
  | noFactor | tooDeep | unclosed => simp

namespace Leads

theorem fails (path : Leads part room s left u)
    (factor : Descent .factor left u (.error diagnostic) rest) :
    Descent part room s (.error diagnostic) rest := by
  induction path with
  | here => exact factor
  | inside present _ ih => exact .groupFails present (ih factor)
  | first _ ih => exact .firstFails (ih factor)
  | again spine found same _ ih => exact .againFails spine found same (ih factor)

theorem onward (path : Leads part room s left u) : s.Onward u := by
  induction path with
  | here => exact .here
  | inside _ _ ih => exact (Scanner.Onward.skip _).trans ih
  | first _ ih => exact ih
  | again spine _ _ _ ih => exact (spine.onward.trans (.skip _)).trans ih

theorem settled (path : Leads part room s left u) (settled : s.Settled) : u.Settled := by
  induction path with
  | here => exact settled
  | inside _ _ ih | again _ _ _ _ ih => exact ih (Scanner.settled_skip _)
  | first _ ih => exact ih settled

theorem lexemes (path : Leads part room s left u) (settled : s.Settled) :
    u.lexemes <:+ s.lexemes := by
  induction path with
  | here => exact List.suffix_rfl
  | inside present _ ih =>
    rw [Scanner.lexemes_of_opening settled present]
    exact (ih (Scanner.settled_skip _)).trans (List.suffix_cons ..)
  | first _ ih => exact ih settled
  | again spine found same operand ih =>
    have front := spine.lexemes settled
    rw [Scanner.lexemes_of_operator (spine.settled settled) found] at front
    exact ((ih (Scanner.settled_skip _)).trans (List.suffix_cons ..)).trans front

end Leads

theorem Lockstep.leads {Need : Scanner σ → Prop} {R : Scanner σ → Scanner τ → Prop}
    {E : Expr → Expr → Prop} (steps : Lockstep Need R E) {t : Scanner τ}
    (path : Leads part room s left u) (later : Need u) (related : R s t) :
    ∃ v, Leads part room t left v ∧ R u v := by
  induction path generalizing t with
  | here => exact ⟨t, .here, related⟩
  | inside present inner ih =>
    have opened := steps.opening related present (steps.need inner.onward later)
    obtain ⟨v, path, after⟩ := ih later opened
    exact ⟨v, .inside ((steps.lookahead related).symm.trans present) path, after⟩
  | first _ ih =>
    obtain ⟨v, path, after⟩ := ih later related
    exact ⟨v, .first path, after⟩
  | @again room left power s middle u e op spine found same operand ih =>
    have skipped := steps.need operand.onward later
    obtain ⟨_, next, front, agree, between⟩ :=
      steps.descent spine (steps.need (.skip middle) skipped) related
    cases agree with
    | ok =>
      obtain ⟨v, path, after⟩ := ih later (steps.operator between found skipped)
      have shown := (steps.operator? between).symm.trans found
      exact ⟨v, .again front shown same path, after⟩

/-- Tokens that make up a part with whatever factor comes after them, if the parentheses of the
factor have the room that is left and the open ones are closed after it. -/
structure Awaits (part : Part) (room : Nat) (ts : List Token) (left : Nat) : Prop where
  within : left ≤ room
  completed {fill : List Token} {shape : Shape} {depth : Nat}
    (factor : Derives .factor fill shape depth) (fits : depth ≤ left) :
    ∃ whole deep, deep ≤ room ∧
      Derives part (ts ++ fill ++ List.replicate (room - left) (.mark ')')) whole deep

namespace Awaits

variable {ts : List Token}

theorem here (room : Nat) : Awaits .factor room [] room where
  within := Nat.le_refl room
  completed := by
    intro fill shape depth factor fits
    exact ⟨shape, depth, fits, by simpa using factor⟩

theorem inside (h : Awaits (.chain .additive) room ts left) :
    Awaits .factor (room + 1) (.mark '(' :: ts) left where
  within := Nat.le_succ_of_le h.within
  completed := by
    intro fill shape depth factor fits
    obtain ⟨whole, deep, low, derived⟩ := h.completed factor fits
    have more : room + 1 - left = room - left + 1 := Nat.succ_sub h.within
    refine ⟨whole, deep + 1, Nat.succ_le_succ low, ?_⟩
    rw [more, List.replicate_succ']
    simpa using Derives.group derived

theorem first {power : Power} (h : Awaits power.operand room ts left) :
    Awaits (.chain power) room ts left where
  within := h.within
  completed := by
    intro fill shape depth factor fits
    obtain ⟨whole, deep, low, derived⟩ := h.completed factor fits
    exact ⟨whole, deep, low, .ended (.first derived)⟩

theorem again {power : Power} {ls : List Token} {shape : Shape} {depth : Nat} {c : Char}
    {op : Operator} (spine : Derives (.spine power) ls shape depth) (low : depth ≤ room)
    (joins : Joins power c op) (h : Awaits power.operand room ts left) :
    Awaits (.chain power) room (ls ++ .mark c :: ts) left where
  within := h.within
  completed := by
    intro fill _ _ factor fits
    obtain ⟨whole, deep, lower, derived⟩ := h.completed factor fits
    refine ⟨.binary op shape whole, _, Nat.max_le.mpr ⟨low, lower⟩, .ended ?_⟩
    simpa using Derives.again spine joins derived

end Awaits

/-- What a way has taken only waits for a factor. -/
theorem Leads.awaits (path : Leads part room s left u) (settled : s.Settled) :
    ∃ ts, s.tokens = ts ++ u.tokens ∧ Awaits part room ts left := by
  induction path with
  | @here room s => exact ⟨[], rfl, .here room⟩
  | inside present _ ih =>
    obtain ⟨ts, met, awaits⟩ := ih (Scanner.settled_skip _)
    refine ⟨_, ?_, awaits.inside⟩
    rw [Scanner.tokens_of_mark settled present (by decide) (by decide), met, List.cons_append]
  | first _ ih =>
    obtain ⟨ts, met, awaits⟩ := ih settled
    exact ⟨ts, met, awaits.first⟩
  | @again room left power s middle u e op spine found same operand ih =>
    obtain ⟨ls, depth, low, derived, front⟩ := spine.derives settled rfl
    obtain ⟨ts, met, awaits⟩ := ih (Scanner.settled_skip middle)
    have joins : Joins power op.symbol op := same ▸ .ofOperator op
    refine ⟨_, ?_, awaits.again derived low joins⟩
    rw [front, Scanner.tokens_of_operator (spine.settled settled) found, met]
    simp

end Reckoner
