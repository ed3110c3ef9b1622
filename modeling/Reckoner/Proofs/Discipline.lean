import Mathlib.Logic.Relation
import Reckoner.Proofs.Dependence

/-! The stacks of an evaluation. Visiting a tree works only above the frames and values that were
there before: every step on the way takes a frame and values that the visit itself has put there, and
at the end there is one value more, or a step fails with the diagnostic that evaluation by recursion
gives (`brings_visit`). In a whole run the frames below a tree spell out
where it stands, so an operator finds the values of its own two operands (`Poised`). -/
namespace Reckoner

/-- How many values a frame takes from the stack. -/
def Frame.arity : Frame → Nat
  | visit _ => 0
  | apply .. => 2

theorem Frame.weights_append (front back : List Frame) :
    weights (front ++ back) = weights front + weights back := by
  induction front with
  | nil => simp [weights]
  | cons frame front ih => simp [weights, ih, Nat.add_assoc]

namespace Machine

/-- What the next step takes stands above the given frames and values. -/
structure Above (frames : List Frame) (values : List Int64) (m : Machine) : Prop where
  takes : ∃ frame pending operands, m.frames = frame :: (pending ++ frames) ∧
    m.values = operands ++ values ∧ frame.arity ≤ operands.length

/-- So many steps, each of which takes only what stands above the given frames and values. -/
inductive Steps (env : Environment) (frames : List Frame) (values : List Int64) :
    Nat → Machine → Machine → Prop where
  | done (m : Machine) : Steps env frames values 0 m m
  | next {count : Nat} {m middle last : Machine} (above : m.Above frames values)
      (step : m.step env = .running middle) (rest : Steps env frames values count middle last) :
      Steps env frames values (count + 1) m last

variable {env : Environment} {frames pending : List Frame} {values operands : List Int64}
  {m middle last : Machine} {count more : Nat}

theorem above_cons (pending : List Frame) (operands : List Int64) {frame : Frame}
    {trace : List Event} (enough : frame.arity ≤ operands.length) :
    Above frames values ⟨frame :: (pending ++ frames), operands ++ values, trace⟩ :=
  ⟨frame, pending, operands, rfl, rfl, enough⟩

theorem Above.lower (h : m.Above (pending ++ frames) (operands ++ values)) :
    m.Above frames values := by
  obtain ⟨frame, others, taken, first, second, enough⟩ := h
  refine ⟨frame, others ++ pending, taken ++ operands, ?_, ?_, ?_⟩
  · rw [first, List.append_assoc]
  · rw [second, List.append_assoc]
  · rw [List.length_append]
    omega

theorem Above.weights_le (h : m.Above frames values) : Frame.weights frames ≤ m.weight := by
  obtain ⟨frame, others, taken, first, _⟩ := h
  rw [weight, first, Frame.weights, Frame.weights_append]
  omega

namespace Steps

theorem trans (first : Steps env frames values count m middle)
    (second : Steps env frames values more middle last) :
    Steps env frames values (count + more) m last := by
  induction first with
  | done => rwa [Nat.zero_add]
  | next above step _ ih =>
    rw [Nat.add_right_comm]
    exact .next above step (ih second)

theorem lower (pending : List Frame) (operands : List Int64)
    (h : Steps env (pending ++ frames) (operands ++ values) count m last) :
    Steps env frames values count m last := by
  induction h with
  | done => exact .done _
  | next above step _ ih => exact .next above.lower step ih

theorem weight_le (h : Steps env frames values count m last) : count + last.weight ≤ m.weight := by
  induction h with
  | done => omega
  | next above step _ ih =>
    have lighter := weight_lt_of_step step
    omega

end Steps

/-- A machine that comes to stand at a failing operator. -/
def Breaks (env : Environment) (frames : List Frame) (values : List Int64) (m : Machine)
    (diagnostic : Diagnostic) (told : List Event) : Prop :=
  ∃ count last, Steps env frames values count m last ∧ last.Above frames values ∧
    last.step env = .stopped (.failed diagnostic) ∧ last.trace = told

theorem Breaks.after {diagnostic : Diagnostic} {told : List Event}
    (first : Steps env frames values count m middle)
    (second : middle.Breaks env frames values diagnostic told) :
    m.Breaks env frames values diagnostic told := by
  obtain ⟨more, last, steps, rest⟩ := second
  exact ⟨_, last, first.trans steps, rest⟩

theorem Breaks.lower (pending : List Frame) (operands : List Int64) {diagnostic : Diagnostic}
    {told : List Event} (h : m.Breaks env (pending ++ frames) (operands ++ values) diagnostic told) :
    m.Breaks env frames values diagnostic told := by
  obtain ⟨count, last, steps, above, rest⟩ := h
  exact ⟨count, last, steps.lower pending operands, above.lower, rest⟩

/-- What becomes of a machine above the given frames and values: one value more, and the frame that
was to be visited is gone, or a failing operator. -/
def Brings (env : Environment) (frames : List Frame) (values : List Int64) (m : Machine) :
    Except Diagnostic Int64 × List Event → Prop
  | (.ok value, told) => ∃ count, Steps env frames values count m ⟨frames, value :: values, told⟩
  | (.error diagnostic, told) => m.Breaks env frames values diagnostic told

/-- Visiting a tree goes as evaluation by recursion does. The induction generalizes over what stands
below: for the left operand that is also the visit of the right one, and for the right operand the
value of the left one. -/
theorem brings_visit (env : Environment) (e : Expr) (frames : List Frame) (values : List Int64)
    (trace : List Event) :
    Brings env frames values ⟨.visit e :: frames, values, trace⟩ (e.reduce env trace) := by
  induction e generalizing frames values trace with
  | number | symbol =>
    exact ⟨1, .next (above_cons [] [] (Nat.zero_le _)) rfl (.done _)⟩
  | binary op position left right span ihl ihr =>
    have opened : Steps env frames values 1
        ⟨.visit (.binary op position left right span) :: frames, values, trace⟩
        ⟨.visit left :: .visit right :: .apply op position :: frames, values, trace⟩ :=
      .next (above_cons [] [] (Nat.zero_le _)) rfl (.done _)
    have first := ihl (.visit right :: .apply op position :: frames) values trace
    simp only [Expr.reduce]
    split
    · next diagnostic told read =>
      rw [read] at first
      exact .after opened (Breaks.lower [_, _] [] first)
    · next l between read =>
      rw [read] at first
      obtain ⟨count, first⟩ := first
      have reached := opened.trans (Steps.lower [_, _] [] first)
      have second := ihr (.apply op position :: frames) (l :: values) between
      split
      · next diagnostic told read =>
        rw [read] at second
        exact .after reached (Breaks.lower [_] [_] second)
      · next r told read =>
        rw [read] at second
        obtain ⟨more, second⟩ := second
        have reached := reached.trans (Steps.lower [_] [_] second)
        have own : Above frames values ⟨.apply op position :: frames, r :: l :: values, told⟩ :=
          above_cons [] [r, l] (Nat.le_refl 2)
        cases applied : op.apply l r with
        | ok value => exact ⟨_, reached.trans (.next own (by simp [step, applied]) (.done _))⟩
        | error fault => exact .after reached ⟨0, _, .done _, own, by simp [step, applied], rfl⟩

end Machine

theorem Expr.subtree?_append (e : Expr) (front back : List Side) :
    e.subtree? (front ++ back) = (e.subtree? front).bind (·.subtree? back) := by
  induction front generalizing e with
  | nil => simp [subtree?]
  | cons side front ih => cases e <;> cases side <;> simp [subtree?, ih]

namespace Machine

/-- A tree inside a whole, and the frames and values that wait for its value: the ones that wait for
the tree around it, and what is still to be done there. -/
inductive Waiting (env : Environment) (root : Expr) : Expr → List Frame → List Int64 → Prop where
  | root : Waiting env root root [] []
  | left {op : Operator} {position : Nat} {left right : Expr} {span : Span} {frames : List Frame}
      {values : List Int64}
      (around : Waiting env root (.binary op position left right span) frames values) :
      Waiting env root left (.visit right :: .apply op position :: frames) values
  | right {op : Operator} {position : Nat} {left right : Expr} {span : Span} {frames : List Frame}
      {values : List Int64} {l : Int64}
      (around : Waiting env root (.binary op position left right span) frames values)
      (done : left.eval env = .ok l) :
      Waiting env root right (.apply op position :: frames) (l :: values)

/-- The machines of a run: about to visit a tree, or just done with it. -/
inductive Poised (env : Environment) (root : Expr) : Machine → Prop where
  | visiting {e : Expr} {frames : List Frame} {values : List Int64} {trace : List Event}
      (waiting : Waiting env root e frames values) :
      Poised env root ⟨.visit e :: frames, values, trace⟩
  | returned {e : Expr} {frames : List Frame} {values : List Int64} {trace : List Event}
      {value : Int64} (waiting : Waiting env root e frames values)
      (done : e.eval env = .ok value) : Poised env root ⟨frames, value :: values, trace⟩

section Run

variable {env : Environment} {root : Expr} {m next : Machine}

theorem Waiting.subtree? {e : Expr} {frames : List Frame} {values : List Int64}
    (h : Waiting env root e frames values) : ∃ path, root.subtree? path = some e := by
  induction h with
  | root => exact ⟨[], by simp [Expr.subtree?]⟩
  | left _ ih =>
    obtain ⟨path, found⟩ := ih
    exact ⟨path ++ [.left], by simp [Expr.subtree?_append, found, Expr.subtree?]⟩
  | right _ _ ih =>
    obtain ⟨path, found⟩ := ih
    exact ⟨path ++ [.right], by simp [Expr.subtree?_append, found, Expr.subtree?]⟩

theorem poised_ofExpr (env : Environment) (e : Expr) (trace : List Event) :
    (ofExpr e trace).Poised env e :=
  .visiting .root

theorem Waiting.step {e : Expr} {frames : List Frame} {values : List Int64} {trace : List Event}
    (waiting : Waiting env root e frames values)
    (step : Machine.step env ⟨.visit e :: frames, values, trace⟩ = .running next) :
    next.Poised env root := by
  cases e with
  | number value span =>
    obtain rfl := Progress.running.inj step
    exact .returned waiting (Expr.eval_number ..)
  | symbol name span =>
    obtain rfl := Progress.running.inj step
    exact .returned waiting (Expr.eval_symbol ..)
  | binary op position left right span =>
    obtain rfl := Progress.running.inj step
    exact .visiting waiting.left

/-- One step. The value of a left operand goes below the visit of the right one, and the value of a
right operand comes to stand on the value of the left one, where the operator takes both. -/
theorem Poised.step (poised : m.Poised env root) (step : m.step env = .running next) :
    next.Poised env root := by
  cases poised with
  | visiting waiting => exact waiting.step step
  | @returned e frames values trace r waiting done =>
    cases waiting with
    | root => contradiction
    | left around => exact (around.right done).step step
    | @right op position left right span frames values l around first =>
      cases applied : op.apply l r with
      | ok value =>
        simp only [Machine.step, applied] at step
        obtain rfl := Progress.running.inj step
        refine .returned around ?_
        rw [Expr.eval_binary, first, done]
        simp [Except.bind, applied, Except.mapError]
      | error fault =>
        simp only [Machine.step, applied] at step
        contradiction

theorem poised_of_reached {trace : List Event}
    (reached : Relation.ReflTransGen (fun m next => m.step env = .running next) (ofExpr root trace) m) :
    m.Poised env root := by
  induction reached with
  | refl => exact poised_ofExpr env root trace
  | tail _ step ih => exact ih.step step

/-- An operator that is about to be applied finds the values of its own operands. -/
theorem Poised.operands (poised : m.Poised env root) {op : Operator} {position : Nat}
    {frames : List Frame} (top : m.frames = .apply op position :: frames) :
    ∃ path left right span l r values,
      root.subtree? path = some (.binary op position left right span) ∧
      m.values = r :: l :: values ∧ left.eval env = .ok l ∧ right.eval env = .ok r := by
  cases poised with
  | visiting => simp at top
  | returned waiting done =>
    cases waiting with
    | root | left => simp at top
    | right around first =>
      obtain ⟨⟨rfl, rfl⟩, rfl⟩ : _ ∧ _ := by simpa using top
      obtain ⟨path, found⟩ := around.subtree?
      exact ⟨path, _, _, _, _, _, _, found, rfl, first, done⟩

theorem Poised.value (poised : m.Poised env root) (ended : m.frames = []) :
    ∃ value, m.values = [value] ∧ root.eval env = .ok value := by
  cases poised with
  | visiting => contradiction
  | returned waiting done =>
    cases waiting with
    | root => exact ⟨_, rfl, done⟩
    | left | right => contradiction

end Run

/-- Visiting a tree above any frames and values puts exactly one value on them, the one of evaluation
by recursion, or stops with its diagnostic, and no step on the way takes one of these frames or
values. In a whole run every operator finds the values of its own two operands, and at the end there
is exactly one value. -/
theorem steps_disciplined (env : Environment) (e : Expr) :
    (∀ frames values trace value told, e.reduce env trace = (.ok value, told) →
      ∃ count ≤ 2 * e.size,
        Steps env frames values count ⟨.visit e :: frames, values, trace⟩
          ⟨frames, value :: values, told⟩) ∧
    (∀ frames values trace diagnostic told, e.reduce env trace = (.error diagnostic, told) →
      ∃ count ≤ 2 * e.size, ∃ last,
        Steps env frames values count ⟨.visit e :: frames, values, trace⟩ last ∧
        last.Above frames values ∧ last.step env = .stopped (.failed diagnostic) ∧
        last.trace = told) ∧
    ∀ trace m,
      Relation.ReflTransGen (fun m next => m.step env = .running next) (ofExpr e trace) m →
      (∀ op position frames, m.frames = .apply op position :: frames →
        ∃ path left right span l r values,
          e.subtree? path = some (.binary op position left right span) ∧
          m.values = r :: l :: values ∧
          (left.reduce env []).1 = .ok l ∧ (right.reduce env []).1 = .ok r) ∧
      (m.frames = [] → ∃ value, m.values = [value] ∧ (e.reduce env []).1 = .ok value) := by
  refine ⟨?_, ?_, ?_⟩
  · intro frames values trace value told reduced
    have brings := brings_visit env e frames values trace
    rw [reduced] at brings
    obtain ⟨count, steps⟩ := brings
    have light := steps.weight_le
    simp only [weight, Frame.weights, Frame.weight] at light
    exact ⟨count, by omega, steps⟩
  · intro frames values trace diagnostic told reduced
    have brings := brings_visit env e frames values trace
    rw [reduced] at brings
    obtain ⟨count, last, steps, above, stopped, same⟩ := brings
    have light := steps.weight_le
    have heavy := above.weights_le
    simp only [weight, Frame.weights, Frame.weight] at light heavy
    exact ⟨count, by omega, last, steps, above, stopped, same⟩
  · intro trace m reached
    have poised := poised_of_reached reached
    simp only [← Expr.eval_eq_reduce]
    exact ⟨fun op position frames top => poised.operands top, poised.value⟩

/-- A difference above a pending product, and a quotient that fails in a whole run. The frame and the
value below the difference are untouched; the failing operator finds its own operands. -/
theorem steps_disciplined_pending :
    let difference : Expr := .binary .minus 1 (.symbol "x" ⟨0, 1⟩) (.number 2 ⟨2, 3⟩) ⟨0, 3⟩
    let quotient : Expr := .binary .divide 1 (.number 1 ⟨0, 1⟩) (.number 0 ⟨2, 3⟩) ⟨0, 3⟩
    (∃ count ≤ 6, Steps .empty [.apply .times 9] [5] count
      ⟨[.visit difference, .apply .times 9], [5], []⟩
      ⟨[.apply .times 9], [-2, 5], [.applied 0 .minus 2 (-2)]⟩) ∧
    (∃ count ≤ 6, ∃ last, Steps .empty [.apply .times 9] [5] count
        ⟨[.visit quotient, .apply .times 9], [5], []⟩ last ∧
      last.Above [.apply .times 9] [5] ∧
      last.step .empty = .stopped (.failed ⟨.divisionByZero, 1⟩) ∧ last.trace = []) ∧
    ∃ path left right span l r values,
      quotient.subtree? path = some (.binary .divide 1 left right span) ∧
      [0, 1] = r :: l :: values ∧
      (left.reduce .empty []).1 = .ok l ∧ (right.reduce .empty []).1 = .ok r := by
  intro difference quotient
  have found : difference.reduce .empty [] = (.ok (-2), [.applied 0 .minus 2 (-2)]) := by rfl
  have failed : quotient.reduce .empty [] = (.error ⟨.divisionByZero, 1⟩, []) := by rfl
  refine ⟨(steps_disciplined .empty difference).1 _ _ _ _ _ found,
    (steps_disciplined .empty quotient).2.1 _ _ _ _ _ failed, ?_⟩
  have reached : Relation.ReflTransGen (fun m next => m.step .empty = .running next)
      (ofExpr quotient []) ⟨[.apply .divide 1], [0, 1], []⟩ :=
    .head rfl (.head rfl (.head rfl .refl))
  exact ((steps_disciplined .empty quotient).2.2 [] _ reached).1 _ _ _ rfl

end Machine

end Reckoner
