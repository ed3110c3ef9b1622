import Reckoner.Environment
import Reckoner.Event

/-! Evaluation on explicit stacks.

Trees can be as deep as the input is long, so evaluation keeps its pending work in a list of frames
and its operands in a list of values. A machine that lacks an operand is `stuck`. `reduce` is the
same evaluation by recursion, left operand first, and `run_visit` says that visiting a tree leaves
exactly one new value on top of the others and touches no other frame or value; a machine that
starts on a tree is therefore never stuck. -/
namespace Reckoner

/-- Work still to do: evaluate a tree, or combine the two topmost values. -/
inductive Frame where
  | visit (e : Expr)
  | apply (operator : Operator) (position : Nat)

def Frame.weight : Frame → Nat
  | visit e => 2 * e.size
  | apply .. => 1

def Frame.weights : List Frame → Nat
  | [] => 0
  | frame :: rest => frame.weight + weights rest

structure Machine where
  frames : List Frame
  values : List Int64
  /-- The events so far, latest first. -/
  trace : List Event

inductive Outcome where
  | value (value : Int64)
  | failed (diagnostic : Diagnostic)
  | stuck
  deriving DecidableEq, Repr

/-- Either the machine goes on, or it has stopped. -/
inductive Progress where
  | running (machine : Machine)
  | stopped (outcome : Outcome)

namespace Machine

/-- The topmost value is the right operand. -/
def step (env : Environment) : Machine → Progress
  | ⟨[], value :: _, _⟩ => .stopped (.value value)
  | ⟨[], [], _⟩ => .stopped .stuck
  | ⟨.visit (.number value _) :: frames, values, trace⟩ =>
    .running ⟨frames, value :: values, trace⟩
  | ⟨.visit (.symbol name _) :: frames, values, trace⟩ =>
    .running ⟨frames, env.lookup name :: values, trace⟩
  | ⟨.visit (.binary operator position left right _) :: frames, values, trace⟩ =>
    .running ⟨.visit left :: .visit right :: .apply operator position :: frames, values, trace⟩
  | ⟨.apply operator position :: frames, right :: left :: values, trace⟩ =>
    match operator.apply left right with
    | .ok value => .running ⟨frames, value :: values, .applied left operator right value :: trace⟩
    | .error fault => .stopped (.failed ⟨fault, position⟩)
  | ⟨.apply .. :: _, _, _⟩ => .stopped .stuck

/-- A bound on the steps to come. -/
def weight (m : Machine) : Nat := Frame.weights m.frames

theorem weight_lt_of_step {env : Environment} {m next : Machine} (h : m.step env = .running next) :
    next.weight < m.weight := by
  unfold step at h
  split at h
  case h_6 =>
    split at h
    · obtain rfl := Progress.running.inj h
      simp [weight, Frame.weights, Frame.weight]
    · contradiction
  all_goals first
    | contradiction
    | obtain rfl := Progress.running.inj h
      simp only [weight, Frame.weights, Frame.weight, Expr.size]
      omega

set_option linter.unusedVariables false in
def run (env : Environment) (m : Machine) : Outcome × List Event :=
  match h : m.step env with
  | .running next => run env next
  | .stopped outcome => (outcome, m.trace)
termination_by m.weight
decreasing_by exact weight_lt_of_step h

theorem run_of_running {env : Environment} {m next : Machine} (h : m.step env = .running next) :
    run env m = run env next := by
  rw [run]
  split
  · next other same => rw [h] at same; rw [Progress.running.inj same]
  · next other same => rw [h] at same; contradiction

theorem run_of_stopped {env : Environment} {m : Machine} {outcome : Outcome}
    (h : m.step env = .stopped outcome) : run env m = (outcome, m.trace) := by
  rw [run]
  split
  · next other same => rw [h] at same; contradiction
  · next other same => rw [h] at same; rw [Progress.stopped.inj same]

end Machine

namespace Expr

/-- Evaluation by recursion, left operand first, with the events it adds to a trace. -/
def reduce (env : Environment) : Expr → List Event → Except Diagnostic Int64 × List Event
  | number value _, trace => (.ok value, trace)
  | symbol name _, trace => (.ok (env.lookup name), trace)
  | binary operator position left right _, trace =>
    match left.reduce env trace with
    | (.error diagnostic, trace) => (.error diagnostic, trace)
    | (.ok l, trace) =>
      match right.reduce env trace with
      | (.error diagnostic, trace) => (.error diagnostic, trace)
      | (.ok r, trace) =>
        match operator.apply l r with
        | .ok value => (.ok value, .applied l operator r value :: trace)
        | .error fault => (.error ⟨fault, position⟩, trace)

end Expr

namespace Machine

theorem run_visit (env : Environment) (e : Expr) (frames : List Frame) (values : List Int64)
    (trace : List Event) :
    run env ⟨.visit e :: frames, values, trace⟩ =
      match e.reduce env trace with
      | (.ok value, trace) => run env ⟨frames, value :: values, trace⟩
      | (.error diagnostic, trace) => (.failed diagnostic, trace) := by
  induction e generalizing frames values trace with
  | number | symbol => rw [run_of_running rfl]; rfl
  | binary operator position left right span ihl ihr =>
    rw [run_of_running rfl, ihl]
    simp only [Expr.reduce]
    split
    · next l trace hl =>
      rw [hl, ihr]
      simp only
      split
      · next r trace hr =>
        rw [hr]
        cases applied : operator.apply l r with
        | ok value =>
          simp only [applied]
          refine run_of_running ?_
          simp only [step, applied]
        | error fault =>
          simp only [applied]
          refine run_of_stopped (m := ⟨_, _, _⟩) ?_
          simp only [step, applied]
      · next diagnostic trace hr => rw [hr]
    · next diagnostic trace hl => rw [hl]

def ofExpr (e : Expr) (trace : List Event) : Machine := ⟨[.visit e], [], trace⟩

theorem run_ofExpr (env : Environment) (e : Expr) (trace : List Event) :
    run env (ofExpr e trace) =
      match e.reduce env trace with
      | (.ok value, trace) => (.value value, trace)
      | (.error diagnostic, trace) => (.failed diagnostic, trace) := by
  rw [ofExpr, run_visit]
  split
  · exact run_of_stopped rfl
  · rfl

end Machine

end Reckoner
