import Reckoner.Proofs.ExactValue
import Reckoner.Proofs.Grammar

/-! What evaluation depends on: the shape of a tree and the values of the names in it. Where its nodes
stand in a text shows only in the place of a failure, and there it is the operator at the end of the
same path that fails (`eval_of_shape_eq`). A name that is not in the tree does not matter, and a name
bound to 0 counts as one that is not bound. -/
namespace Reckoner

inductive Side where
  | left
  | right
  deriving DecidableEq, Repr

namespace Expr

def names : Expr → List String
  | number .. => []
  | symbol name _ => [name]
  | binary _ _ left right _ => left.names ++ right.names

/-- The tree at the end of a path from the root. -/
def subtree? : Expr → List Side → Option Expr
  | e, [] => some e
  | binary _ _ left _ _, .left :: path => left.subtree? path
  | binary _ _ _ right _, .right :: path => right.subtree? path
  | _, _ => none

/-- Both operands at the end of the path have a value, and the operator between them has none. -/
def FailsAt (env : Environment) (e : Expr) (path : List Side) (d : Diagnostic) : Prop :=
  ∃ op left right span l r, e.subtree? path = some (binary op d.position left right span) ∧
    left.eval env = .ok l ∧ right.eval env = .ok r ∧ op.apply l r = .error d.fault

namespace FailsAt

variable {env : Environment} {op : Operator} {position : Nat} {left right : Expr} {span : Span}
  {path : List Side} {d : Diagnostic}

theorem ofLeft (h : left.FailsAt env path d) :
    (binary op position left right span).FailsAt env (.left :: path) d := h

theorem ofRight (h : right.FailsAt env path d) :
    (binary op position left right span).FailsAt env (.right :: path) d := h

theorem root {l r : Int64} {fault : Fault} (first : left.eval env = .ok l)
    (second : right.eval env = .ok r) (applied : op.apply l r = .error fault) :
    (binary op position left right span).FailsAt env [] ⟨fault, position⟩ :=
  ⟨op, left, right, span, l, r, rfl, first, second, applied⟩

end FailsAt

section Equations

variable (env : Environment)

theorem eval_number (value : Int64) (span : Span) : (number value span).eval env = .ok value :=
  eval_eq_reduce ..

theorem eval_symbol (name : String) (span : Span) :
    (symbol name span).eval env = .ok (env.lookup name) :=
  eval_eq_reduce ..

theorem eval_binary (op : Operator) (position : Nat) (left right : Expr) (span : Span) :
    (binary op position left right span).eval env =
      (left.eval env).bind fun l => (right.eval env).bind fun r =>
        (op.apply l r).mapError fun fault => ⟨fault, position⟩ := by
  rw [eval_eq_reduce, ← reduce_fst env left [], reduce]
  split
  · next met => rw [met]; rfl
  · next l trace met =>
    rw [met, ← reduce_fst env right trace]
    split
    · next met => rw [met]; rfl
    · next r rest met =>
      rw [met]
      simp only [Except.bind]
      cases op.apply l r <;> rfl

end Equations

/-- Two evaluations that went the same way: they have the same value, or the same fault at the end of
the same path. -/
inductive Matched (env other : Environment) (a b : Expr) :
    Except Diagnostic Int64 → Except Diagnostic Int64 → Prop where
  | value (value : Int64) : Matched env other a b (.ok value) (.ok value)
  | fault {fault : Fault} {p q : Nat} {path : List Side} (first : a.FailsAt env path ⟨fault, p⟩)
      (second : b.FailsAt other path ⟨fault, q⟩) :
      Matched env other a b (.error ⟨fault, p⟩) (.error ⟨fault, q⟩)

section Binary

variable {env other : Environment} {op : Operator} {p q : Nat} {a b c d : Expr} {s t : Span}

/-- Operands whose evaluations went the same way. The path of a failure in one of them starts with its
side; if both have values, the operator fails on both sides or on neither. -/
theorem Matched.binary (lefts : Matched env other a b (a.eval env) (b.eval other))
    (rights : Matched env other c d (c.eval env) (d.eval other)) :
    Matched env other (binary op p a c s) (binary op q b d t)
      ((binary op p a c s).eval env) ((binary op q b d t).eval other) := by
  rw [eval_binary, eval_binary]
  generalize leftHere : a.eval env = left at lefts
  generalize leftThere : b.eval other = left' at lefts
  cases lefts with
  | fault first second => exact .fault first.ofLeft second.ofLeft
  | value l =>
    generalize rightHere : c.eval env = right at rights
    generalize rightThere : d.eval other = right' at rights
    cases rights with
    | fault first second => exact .fault first.ofRight second.ofRight
    | value r =>
      simp only [Except.bind]
      cases applied : op.apply l r with
      | ok value => exact .value value
      | error fault =>
        exact .fault (.root leftHere rightHere applied) (.root leftThere rightThere applied)

end Binary

theorem matched_eval {a b : Expr} {env other : Environment} (same : a.shape = b.shape)
    (agree : ∀ name ∈ a.names, env.lookup name = other.lookup name) :
    Matched env other a b (a.eval env) (b.eval other) := by
  induction same using induction_of_shape_eq with
  | number value s t =>
    rw [eval_number, eval_number]
    exact .value value
  | symbol name s t =>
    rw [eval_symbol, eval_symbol, agree name (List.mem_singleton.mpr rfl)]
    exact .value _
  | binary op p q left right left' right' s t _ _ ihl ihr =>
    apply Matched.binary
    · exact ihl fun name member => agree name (List.mem_append_left _ member)
    · exact ihr fun name member => agree name (List.mem_append_right _ member)

/-- Trees of one shape in environments that agree on the names in them have the same value, or fail
with the same fault at the end of the same path, each at the place of its own operator there. -/
theorem eval_of_shape_eq (a b : Expr) (env other : Environment) (same : a.shape = b.shape)
    (agree : ∀ name ∈ a.names, env.lookup name = other.lookup name) :
    (∃ value, a.eval env = .ok value ∧ b.eval other = .ok value) ∨
    ∃ fault path p q, a.eval env = .error ⟨fault, p⟩ ∧ b.eval other = .error ⟨fault, q⟩ ∧
      a.FailsAt env path ⟨fault, p⟩ ∧ b.FailsAt other path ⟨fault, q⟩ := by
  have matched := matched_eval same agree
  generalize here : a.eval env = x at matched ⊢
  generalize there : b.eval other = y at matched ⊢
  cases matched with
  | value value => exact .inl ⟨value, rfl, rfl⟩
  | fault first second => exact .inr ⟨_, _, _, _, rfl, rfl, first, second⟩

/-- The same quotient in two texts. In one environment the divisor is bound to 0, in the other it is
not bound, and each binds a name of its own besides. -/
theorem eval_of_shape_eq_unbound :
    let quotient (place : Nat) := binary .divide (place + 1) (symbol "y" ⟨place, place + 1⟩)
      (symbol "x" ⟨place + 2, place + 3⟩) ⟨place, place + 3⟩
    let a := binary .plus 1 (number 1 ⟨0, 1⟩) (quotient 2) ⟨0, 5⟩
    let b := binary .plus 3 (number 1 ⟨1, 2⟩) (quotient 6) ⟨1, 9⟩
    let env := Environment.ofList [("x", 0), ("y", 5), ("z", 7)]
    let other := Environment.ofList [("y", 4), ("y", 5), ("w", 1)]
    a.shape = b.shape ∧ (∀ name ∈ a.names, env.lookup name = other.lookup name) ∧
    a.eval env = .error ⟨.divisionByZero, 3⟩ ∧ b.eval other = .error ⟨.divisionByZero, 7⟩ ∧
    ∃ path, a.FailsAt env path ⟨.divisionByZero, 3⟩ ∧ b.FailsAt other path ⟨.divisionByZero, 7⟩ := by
  intro quotient a b env other
  have same : a.shape = b.shape := rfl
  have agree : ∀ name ∈ a.names, env.lookup name = other.lookup name := by decide +kernel
  have here : a.eval env = .error ⟨.divisionByZero, 3⟩ := by
    rw [eval_eq_reduce]
    decide +kernel
  have there : b.eval other = .error ⟨.divisionByZero, 7⟩ := by
    rw [eval_eq_reduce]
    decide +kernel
  rcases eval_of_shape_eq a b env other same agree with
    ⟨value, found, _⟩ | ⟨fault, path, p, q, failed, failed', first, second⟩
  · rw [here] at found
    contradiction
  · obtain ⟨rfl, rfl⟩ := Diagnostic.mk.inj (Except.error.inj (here.symm.trans failed))
    obtain ⟨_, rfl⟩ := Diagnostic.mk.inj (Except.error.inj (there.symm.trans failed'))
    exact ⟨same, agree, here, there, path, first, second⟩

end Expr

end Reckoner
