import Mathlib.Algebra.Group.Int.Defs
import Reckoner.Evaluation.Basic

/-! Evaluation against unbounded integers. `exact` gives every node its value as if words had no
bound, and `applications` lists the binary nodes in the order left operand, right operand, node,
each with the exact values around it. Evaluation has a value exactly if no application fails, and
otherwise reports the first that does. -/
namespace Reckoner

/-- An operator at its place, the exact values it is applied to, and the exact result. -/
structure Application where
  operator : Operator
  position : Nat
  left : Int
  right : Int
  value : Int
  deriving DecidableEq, Repr

namespace Application

/-- Division by zero, or a result that is no integer of 64 bits. -/
def Fails (a : Application) : Prop :=
  (a.operator = .divide ∧ a.right = 0) ∨ ¬(-2 ^ 63 ≤ a.value ∧ a.value ≤ 2 ^ 63 - 1)

instance (a : Application) : Decidable a.Fails := inferInstanceAs (Decidable (_ ∨ ¬_))

def fault (a : Application) : Fault :=
  if a.operator = .divide ∧ a.right = 0 then .divisionByZero
  else .overflow (toString a.left ++ " " ++ a.operator.text ++ " " ++ toString a.right)

end Application

namespace Expr

/-- The value over unbounded integers. A name without a binding counts as 0, and division goes
toward zero. -/
def exact (env : Environment) : Expr → Int
  | number value _ => value.toInt
  | symbol name _ =>
    match env.get? name with
    | some value => value.toInt
    | none => 0
  | binary .plus _ left right _ => left.exact env + right.exact env
  | binary .minus _ left right _ => left.exact env - right.exact env
  | binary .times _ left right _ => left.exact env * right.exact env
  | binary .divide _ left right _ => (left.exact env).tdiv (right.exact env)

def applications (env : Environment) : Expr → List Application
  | number .. | symbol .. => []
  | binary operator position left right span =>
    left.applications env ++ right.applications env ++
      [⟨operator, position, left.exact env, right.exact env,
        (binary operator position left right span).exact env⟩]

/-- What evaluation has to answer. -/
def Verdict (env : Environment) (e : Expr) : Except Diagnostic Int64 → Prop
  | .ok value => (∀ a ∈ e.applications env, ¬a.Fails) ∧ value.toInt = e.exact env
  | .error diagnostic => ∃ a, (e.applications env).find? (fun a => a.Fails) = some a ∧
      diagnostic = ⟨a.fault, a.position⟩

end Expr

theorem Decimal.ofInt_eq_toString (n : Int) : Decimal.ofInt n = toString n := by
  cases n with
  | ofNat n => exact Nat.repr_eq_ofList_toDigits.symm
  | negSucc n => exact congrArg ("-" ++ ·) Nat.repr_eq_ofList_toDigits.symm

theorem Word.eq_zero_iff (value : Int64) : value = 0 ↔ value.toInt = 0 := by
  rw [← Int64.toInt_inj]
  rfl

namespace Operator

variable {op : Operator} {left right : Int64}

theorem not_fails_of_apply {value : Int64} (position : Nat) (h : op.apply left right = .ok value) :
    ¬Application.Fails ⟨op, position, left.toInt, right.toInt,
      op.exactValue left.toInt right.toInt⟩ := by
  obtain ⟨defined, exact⟩ := (apply_eq_ok_iff op left right value).mp h
  rintro (⟨division, zero⟩ | outside)
  · exact defined ⟨division, (Word.eq_zero_iff right).mpr zero⟩
  · rw [exact] at outside
    exact outside (Word.fits_toInt value)

theorem fails_of_apply {fault : Fault} (position : Nat) (h : op.apply left right = .error fault) :
    Application.Fails ⟨op, position, left.toInt, right.toInt,
      op.exactValue left.toInt right.toInt⟩ ∧
    fault = Application.fault ⟨op, position, left.toInt, right.toInt,
      op.exactValue left.toInt right.toInt⟩ := by
  simp only [Application.Fails, Application.fault, ← Word.eq_zero_iff]
  unfold apply at h
  split at h
  · next zero => exact ⟨.inl zero, by rw [if_pos zero, Except.error.inj h]⟩
  · next defined =>
    rw [if_neg defined]
    split at h
    · contradiction
    · next outside =>
      refine ⟨.inr ((Word.ofInt?_eq_none_iff _).mp outside), ?_⟩
      rw [← Except.error.inj h, operation, Decimal.ofInt_eq_toString, Decimal.ofInt_eq_toString]

end Operator

namespace Expr

theorem exact_symbol (env : Environment) (name : String) (span : Span) :
    (symbol name span).exact env = (env.lookup name).toInt := by
  simp only [exact, Environment.lookup]
  split
  all_goals next h => rw [h]; rfl

theorem exact_binary (env : Environment) (op : Operator) (position : Nat) (left right : Expr)
    (span : Span) :
    (binary op position left right span).exact env =
      op.exactValue (left.exact env) (right.exact env) := by
  cases op <;> rfl

section Binary

variable {env : Environment} {op : Operator} {position : Nat} {left right : Expr} {span : Span}
  {diagnostic : Diagnostic} {l r : Int64}

/-- The applications of the operands come before the one of the node, those of the left operand
first, so a failure in an operand is the first failure. -/
theorem Verdict.of_left (failed : left.Verdict env (.error diagnostic)) :
    (binary op position left right span).Verdict env (.error diagnostic) := by
  obtain ⟨a, first, same⟩ := failed
  refine ⟨a, ?_, same⟩
  rw [applications, List.append_assoc, List.find?_append, first, Option.some_or]

theorem Verdict.find?_eq_none (done : left.Verdict env (.ok l)) :
    (left.applications env).find? (fun a => a.Fails) = none := by
  rw [List.find?_eq_none]
  intro a member
  simpa using done.1 a member

theorem Verdict.of_right (done : left.Verdict env (.ok l))
    (failed : right.Verdict env (.error diagnostic)) :
    (binary op position left right span).Verdict env (.error diagnostic) := by
  obtain ⟨a, first, same⟩ := failed
  refine ⟨a, ?_, same⟩
  rw [applications, List.append_assoc, List.find?_append, done.find?_eq_none, Option.none_or,
    List.find?_append, first, Option.some_or]

theorem Verdict.of_ok {value : Int64} (leftDone : left.Verdict env (.ok l))
    (rightDone : right.Verdict env (.ok r)) (applied : op.apply l r = .ok value) :
    (binary op position left right span).Verdict env (.ok value) := by
  have sound := Operator.not_fails_of_apply position applied
  have exact := ((Operator.apply_eq_ok_iff op l r value).mp applied).2
  rw [leftDone.2, rightDone.2, ← exact_binary env op position left right span] at sound exact
  refine ⟨?_, exact.symm⟩
  intro a member
  rcases List.mem_append.mp member with member | member
  · rcases List.mem_append.mp member with member | member
    · exact leftDone.1 a member
    · exact rightDone.1 a member
  · rwa [List.mem_singleton.mp member]

theorem Verdict.of_fault {fault : Fault} (leftDone : left.Verdict env (.ok l))
    (rightDone : right.Verdict env (.ok r)) (applied : op.apply l r = .error fault) :
    (binary op position left right span).Verdict env (.error ⟨fault, position⟩) := by
  obtain ⟨fails, same⟩ := Operator.fails_of_apply position applied
  rw [leftDone.2, rightDone.2, ← exact_binary env op position left right span] at fails same
  refine ⟨_, ?_, by rw [same]⟩
  rw [applications, List.append_assoc, List.find?_append, leftDone.find?_eq_none, Option.none_or,
    List.find?_append, rightDone.find?_eq_none, Option.none_or]
  exact List.find?_cons_of_pos (decide_eq_true fails)

end Binary

theorem verdict_reduce (env : Environment) (e : Expr) (trace : List Event) :
    e.Verdict env (e.reduce env trace).1 := by
  induction e generalizing trace with
  | number value span => exact ⟨by simp [applications], rfl⟩
  | symbol name span => exact ⟨by simp [applications], (exact_symbol env name span).symm⟩
  | binary op position left right span ihl ihr =>
    have first := ihl trace
    simp only [reduce]
    split
    · next diagnostic middle read =>
      rw [read] at first
      exact first.of_left
    · next l middle read =>
      rw [read] at first
      have second := ihr middle
      split
      · next diagnostic rest read =>
        rw [read] at second
        exact first.of_right second
      · next r rest read =>
        rw [read] at second
        cases applied : op.apply l r with
        | ok value => exact first.of_ok second applied
        | error fault => exact first.of_fault second applied

theorem verdict_unique {env : Environment} {e : Expr} {a b : Except Diagnostic Int64}
    (first : e.Verdict env a) (second : e.Verdict env b) : a = b := by
  cases a with
  | ok v =>
    cases b with
    | ok w => rw [Int64.toInt_inj.mp (first.2.trans second.2.symm)]
    | error d =>
      obtain ⟨x, found, _⟩ := second
      rw [first.find?_eq_none] at found
      contradiction
  | error c =>
    obtain ⟨x, found, rfl⟩ := first
    cases b with
    | ok w =>
      rw [second.find?_eq_none] at found
      contradiction
    | error d =>
      obtain ⟨y, other, rfl⟩ := second
      rw [Option.some.inj (found.symm.trans other)]

theorem reduce_fst (env : Environment) (e : Expr) (trace : List Event) :
    (e.reduce env trace).1 = e.eval env := by
  have answered := verdict_reduce env e []
  rw [← eval_eq_reduce] at answered
  exact verdict_unique (verdict_reduce env e trace) answered

theorem eval_eq_iff (env : Environment) (e : Expr) (result : Except Diagnostic Int64) :
    e.eval env = result ↔ e.Verdict env result := by
  have answered := verdict_reduce env e []
  rw [reduce_fst] at answered
  constructor
  · rintro rfl
    exact answered
  · exact verdict_unique answered

/-- Evaluation has a value exactly if no division is by zero and every exact result is an integer
of 64 bits; the value is then exact. Otherwise it fails for the first application that fails, at
the place of its operator. It never lacks an operand. -/
theorem eval_exact (e : Expr) (env : Environment) :
    (∀ value, e.eval env = .ok value ↔
      (∀ a ∈ e.applications env, ¬a.Fails) ∧ value.toInt = e.exact env) ∧
    (∀ diagnostic, e.eval env = .error diagnostic ↔
      ∃ a, (e.applications env).find? (fun a => a.Fails) = some a ∧
        diagnostic = ⟨a.fault, a.position⟩) ∧
    ∀ trace, (Machine.run env (Machine.ofExpr e trace)).1 ≠ .stuck := by
  refine ⟨fun value => eval_eq_iff env e (.ok value),
    fun diagnostic => eval_eq_iff env e (.error diagnostic), ?_⟩
  intro trace stuck
  have result := Machine.result?_run env e trace
  rw [stuck] at result
  contradiction

end Expr

end Reckoner
