import Reckoner.Proofs.Course

/-! Two parses in step. Where two scanners are related so that they show the same character and the
same token takes both to related scanners, a parse goes the same way from both
(`Lockstep.descent`): it reads related trees, or it fails with the same fault at related scanners.
What the relation is, is left open: that the texts agree so far as they are read, or that they have
the same tokens. -/
namespace Reckoner

variable {σ τ : Type} [Source σ] [Source τ]

/-- What a relation `R` between scanners has to keep, and a relation `E` between trees with it. It
has to be kept only as long as there is `Need` of it, and what a later scanner needs an earlier one
does. -/
structure Lockstep (Need : Scanner σ → Prop) (R : Scanner σ → Scanner τ → Prop)
    (E : Expr → Expr → Prop) : Prop where
  need {s u : Scanner σ} (onward : s.Onward u) (later : Need u) : Need s
  lookahead {s : Scanner σ} {t : Scanner τ} (related : R s t) : s.lookahead = t.lookahead
  record {s : Scanner σ} {t : Scanner τ} (related : R s t) (a b : Event) :
    R (s.record a) (t.record b)
  mark {s : Scanner σ} {t : Scanner τ} {c : Char} (related : R s t)
    (present : s.lookahead = some c) (other : Text.isLetter c = false) (plain : c.isDigit = false)
    (later : Need s.skip) : R s.skip t.skip
  word {s : Scanner σ} {t : Scanner τ} {c : Char} (related : R s t)
    (present : s.lookahead = some c) (letter : Text.isLetter c = true)
    (later : Need s.identifier.2) :
    R s.identifier.2 t.identifier.2 ∧
      E (.symbol s.identifier.1 ⟨s.position, s.identifier.2.lastEnd⟩)
        (.symbol t.identifier.1 ⟨t.position, t.identifier.2.lastEnd⟩)
  literal {s : Scanner σ} {t : Scanner τ} {c : Char} (related : R s t)
    (present : s.lookahead = some c) (other : Text.isLetter c = false) (digit : c.isDigit = true)
    (later : Need s.integer.2) :
    R s.integer.2 t.integer.2 ∧
      s.upcoming.takeWhile Char.isDigit = t.upcoming.takeWhile Char.isDigit ∧
      ∀ value, E (.number value ⟨s.position, s.integer.2.lastEnd⟩)
        (.number value ⟨t.position, t.integer.2.lastEnd⟩)
  join {s : Scanner σ} {t : Scanner τ} {op : Operator} {l m r q : Expr} (related : R s t)
    (found : s.operator? = some op) (left : E l m) (right : E r q) :
    E (l.join op s.position r) (m.join op t.position q)

/-- Related trees, or the same fault at related scanners. -/
inductive Agree (R : Scanner σ → Scanner τ → Prop) (E : Expr → Expr → Prop) :
    Except Diagnostic Expr → Except Diagnostic Expr → Prop where
  | ok {e f : Expr} (related : E e f) : Agree R E (.ok e) (.ok f)
  | error {s : Scanner σ} {t : Scanner τ} (fault : Fault) (related : R s t) :
      Agree R E (.error ⟨fault, s.position⟩) (.error ⟨fault, t.position⟩)

namespace Lockstep

variable {Need : Scanner σ → Prop} {R : Scanner σ → Scanner τ → Prop} {E : Expr → Expr → Prop}
  {s : Scanner σ} {t : Scanner τ}

theorem operator? (steps : Lockstep Need R E) (related : R s t) : s.operator? = t.operator? := by
  rw [Scanner.operator?, Scanner.operator?, steps.lookahead related]

theorem continues (steps : Lockstep Need R E) (related : R s t) {power : Power} :
    s.Continues power ↔ t.Continues power := by
  rw [Scanner.Continues, Scanner.Continues, steps.operator? related]

theorem operator (steps : Lockstep Need R E) (related : R s t) {op : Operator}
    (found : s.operator? = some op) (later : Need s.skip) : R s.skip t.skip := by
  refine steps.mark related (Scanner.lookahead_of_operator? found) ?_ ?_ later
  all_goals cases op <;> decide

theorem opening (steps : Lockstep Need R E) (related : R s t) (present : s.lookahead = some '(')
    (later : Need s.skip) : R s.skip t.skip :=
  steps.mark related present (by decide) (by decide) later

/-- A descent on one side has its like on the other. -/
theorem descent (steps : Lockstep Need R E) {part : Part} {room : Nat} {rest : Scanner σ}
    {result : Except Diagnostic Expr} (h : Descent part room s result rest) (later : Need rest)
    (related : R s t) :
    ∃ other last, Descent part room t other last ∧ Agree R E result other ∧ R rest last := by
  induction h generalizing t with
  | @symbol room s c present letter =>
    obtain ⟨after, trees⟩ := steps.word related present letter later
    exact ⟨_, _, .symbol ((steps.lookahead related).symm.trans present) letter, .ok trees, after⟩
  | @number room s rest c value present other digit fits =>
    have read : s.integer.2 = rest := by rw [fits]
    subst read
    obtain ⟨after, same, trees⟩ := steps.literal related present other digit later
    obtain ⟨small, rfl⟩ := Scanner.of_integer_ok fits
    rw [same] at small
    have shown := (steps.lookahead related).symm.trans present
    refine ⟨_, _, .number shown other digit (Scanner.integer_of_fits small), ?_, after⟩
    rw [← same]
    exact .ok (trees _)
  | @tooLarge room s rest c diagnostic present other digit exceeds =>
    have read : s.integer.2 = rest := by rw [exceeds]
    subst read
    obtain ⟨after, same, _⟩ := steps.literal related present other digit later
    obtain rfl := Scanner.of_integer_error exceeds
    have large := Scanner.exceeds_of_integer_error exceeds
    rw [same] at large
    have shown := (steps.lookahead related).symm.trans present
    refine ⟨_, _, .tooLarge shown other digit (Scanner.integer_of_exceeds large), ?_, after⟩
    rw [← same]
    exact .error _ related
  | @noFactor room s none =>
    have shown := steps.lookahead related
    refine ⟨_, t, .noFactor (shown ▸ none), ?_, related⟩
    rw [← shown]
    exact .error _ related
  | tooDeep present =>
    exact ⟨_, t, .tooDeep ((steps.lookahead related).symm.trans present), .error _ related, related⟩
  | @group room s rest e present inner closed ih =>
    have middle := steps.need (.skip rest) later
    have opened := steps.opening related present (steps.need inner.onward middle)
    obtain ⟨_, last, descent, agree, after⟩ := ih middle opened
    cases agree with
    | ok trees =>
      have shown := (steps.lookahead after).symm.trans closed
      refine ⟨_, last.skip, .group ((steps.lookahead related).symm.trans present) descent shown,
        .ok trees, ?_⟩
      exact steps.mark after closed (by decide) (by decide) later
  | @unclosed room s rest e present inner missing ih =>
    have opened := steps.opening related present (steps.need inner.onward later)
    obtain ⟨_, last, descent, agree, after⟩ := ih later opened
    cases agree with
    | ok trees =>
      have shown := steps.lookahead after
      have absent : last.lookahead ≠ some ')' := shown ▸ missing
      refine ⟨_, last, .unclosed ((steps.lookahead related).symm.trans present) descent absent, ?_,
        after⟩
      rw [← shown]
      exact .error _ after
  | @groupFails room s rest diagnostic present inner ih =>
    have opened := steps.opening related present (steps.need inner.onward later)
    obtain ⟨_, last, descent, agree, after⟩ := ih later opened
    cases agree with
    | error fault stands =>
      exact ⟨_, last, .groupFails ((steps.lookahead related).symm.trans present) descent,
        .error fault stands, after⟩
  | first operand ih =>
    obtain ⟨_, last, descent, agree, after⟩ := ih later related
    cases agree with
    | ok trees => exact ⟨_, last, .first descent, .ok trees, after⟩
  | @again room power s middle rest left right op spine found same operand ihs iho =>
    have later := steps.need (Scanner.Onward.here.record _) later
    have skipped := steps.need operand.onward later
    obtain ⟨_, next, front, agree, between⟩ := ihs (steps.need (.skip middle) skipped) related
    cases agree with
    | ok leftTrees =>
      obtain ⟨_, last, back, agree, after⟩ := iho later (steps.operator between found skipped)
      cases agree with
      | ok rightTrees =>
        have shown := (steps.operator? between).symm.trans found
        exact ⟨_, _, .again front shown same back,
          .ok (steps.join between found leftTrees rightTrees), steps.record after _ _⟩
  | ended spine stops ih =>
    obtain ⟨_, last, descent, agree, after⟩ := ih later related
    cases agree with
    | ok trees =>
      exact ⟨_, last, .ended descent (mt (steps.continues after).mpr stops), .ok trees, after⟩
  | firstFails operand ih =>
    obtain ⟨_, last, descent, agree, after⟩ := ih later related
    cases agree with
    | error fault stands => exact ⟨_, last, .firstFails descent, .error fault stands, after⟩
  | @againFails room power s middle rest left op diagnostic spine found same operand ihs iho =>
    have skipped := steps.need operand.onward later
    obtain ⟨_, next, front, agree, between⟩ := ihs (steps.need (.skip middle) skipped) related
    cases agree with
    | ok leftTrees =>
      obtain ⟨_, last, back, agree, after⟩ := iho later (steps.operator between found skipped)
      cases agree with
      | error fault stands =>
        have shown := (steps.operator? between).symm.trans found
        exact ⟨_, last, .againFails front shown same back, .error fault stands, after⟩

end Lockstep

end Reckoner
