import Reckoner.Evaluation.Machine

/-! The value of a tree in an environment, or the diagnostic of the first operator that fails.

`eval_eq_reduce` says that the machine's answer is the one of evaluation by recursion. -/
namespace Reckoner

/-- What an outcome says about the tree; a stuck machine says nothing. -/
def Outcome.result? : Outcome → Option (Except Diagnostic Int64)
  | value v => some (.ok v)
  | failed diagnostic => some (.error diagnostic)
  | stuck => none

theorem Machine.result?_run (env : Environment) (e : Expr) (trace : List Event) :
    (run env (ofExpr e trace)).1.result? = some (e.reduce env trace).1 := by
  rw [run_ofExpr]
  split
  all_goals next h => simp [h, Outcome.result?]

namespace Expr

/-- Evaluates, and adds one event for each operator applied to a trace. -/
def evalFrom (trace : List Event) (e : Expr) (env : Environment) :
    Except Diagnostic Int64 × List Event :=
  let run := Machine.run env (Machine.ofExpr e trace)
  (run.1.result?.get (by simp [run, Machine.result?_run]), run.2)

def eval (e : Expr) (env : Environment) : Except Diagnostic Int64 := (e.evalFrom [] env).1

/-- Evaluates with events for the start and the end; the events stand latest first. -/
def evaluate (e : Expr) (env : Environment) : Except Diagnostic Int64 × List Event :=
  match e.evalFrom [.evaluating env.size] env with
  | (.ok value, trace) => (.ok value, .evaluated e value :: trace)
  | (.error diagnostic, trace) => (.error diagnostic, .evaluationFailed e diagnostic :: trace)

theorem evalFrom_eq_reduce (trace : List Event) (e : Expr) (env : Environment) :
    e.evalFrom trace env = e.reduce env trace := by
  have result : (e.evalFrom trace env).1 = (e.reduce env trace).1 := by
    simp [evalFrom, Machine.result?_run]
  have events : (e.evalFrom trace env).2 = (e.reduce env trace).2 := by
    simp only [evalFrom, Machine.run_ofExpr]
    split
    all_goals next h => rw [h]
  exact Prod.ext result events

theorem eval_eq_reduce (e : Expr) (env : Environment) : e.eval env = (e.reduce env []).1 := by
  rw [eval, evalFrom_eq_reduce]

end Expr

end Reckoner
