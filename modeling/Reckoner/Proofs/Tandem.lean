import Mathlib.Data.List.Forall2
import Reckoner.Proofs.Lockstep

/-! Whole courses of operations in step. Two scanners are in tandem where each operation on a token
takes both on alike and the one is always so many characters ahead of the other. Then every
operation gives the same answer on both but for that distance (`Tandem.perform`), and so does every
course of operations (`Tandem.play`). That the parse itself goes along is left to `Lockstep`. -/
namespace Reckoner

def Span.shift (distance : Nat) (span : Span) : Span :=
  ⟨span.start + distance, span.stop + distance⟩

/-- The same tree so many characters further. -/
def Expr.shift (distance : Nat) : Expr → Expr
  | number value span => number value (span.shift distance)
  | symbol name span => symbol name (span.shift distance)
  | binary operator position left right span =>
    binary operator (position + distance) (left.shift distance) (right.shift distance)
      (span.shift distance)

def Diagnostic.shift (distance : Nat) (d : Diagnostic) : Diagnostic :=
  ⟨d.fault, d.position + distance⟩

def Answer.shift (distance : Nat) : Answer → Answer
  | .done => .done
  | .name word => .name word
  | .operator op => .operator op
  | .matched result => .matched (result.mapError (Diagnostic.shift distance))
  | .integer result => .integer (result.mapError (Diagnostic.shift distance))
  | .tree result =>
    .tree ((result.map (Expr.shift distance)).mapError (Diagnostic.shift distance))

namespace Expr

@[simp] theorem span_shift (distance : Nat) (e : Expr) :
    (e.shift distance).span = e.span.shift distance := by
  cases e <;> rfl

theorem shift_join (distance position : Nat) (left right : Expr) (op : Operator) :
    (left.join op position right).shift distance =
      (left.shift distance).join op (position + distance) (right.shift distance) := by
  simp [join, shift, Span.shift]

@[simp] theorem shift_zero (e : Expr) : e.shift 0 = e := by
  induction e with
  | number | symbol => rfl
  | binary operator position left right span ihl ihr => rw [shift, ihl, ihr]; rfl

end Expr

@[simp] theorem Answer.shift_zero (answer : Answer) : answer.shift 0 = answer := by
  cases answer with
  | done | name | operator => rfl
  | matched result | integer result => cases result <;> rfl
  | tree result => cases result <;> simp [shift, Except.map, Except.mapError, Diagnostic.shift]

variable {σ τ : Type} [Source σ] [Source τ]

/-- What a relation `R` between scanners has to keep so that any operation can be performed on both,
as long as there is `Need` of it. -/
structure Tandem (Need : Scanner σ → Prop) (R : Scanner σ → Scanner τ → Prop) (distance : Nat) :
    Prop where
  need {s u : Scanner σ} (onward : s.Onward u) (later : Need u) : Need s
  lookahead {s : Scanner σ} {t : Scanner τ} (related : R s t) : s.lookahead = t.lookahead
  position {s : Scanner σ} {t : Scanner τ} (related : R s t) : s.position = t.position + distance
  record {s : Scanner σ} {t : Scanner τ} (related : R s t) (a b : Event) :
    R (s.record a) (t.record b)
  skip {s : Scanner σ} {t : Scanner τ} (related : R s t) (later : Need s.skip) : R s.skip t.skip
  identifier {s : Scanner σ} {t : Scanner τ} (related : R s t) (later : Need s.identifier.2) :
    s.identifier.1 = t.identifier.1 ∧ R s.identifier.2 t.identifier.2
  integer {s : Scanner σ} {t : Scanner τ} (related : R s t) (later : Need s.integer.2) :
    s.upcoming.takeWhile Char.isDigit = t.upcoming.takeWhile Char.isDigit ∧
      R s.integer.2 t.integer.2

namespace Tandem

variable {Need : Scanner σ → Prop} {R : Scanner σ → Scanner τ → Prop} {distance : Nat}
  {s : Scanner σ} {t : Scanner τ}

/-- A token stops as far from its start on both sides, whatever the last ends were before it. -/
theorem lockstep (tandem : Tandem Need R distance) :
    Lockstep Need R fun e f => e = f.shift distance where
  need := tandem.need
  lookahead := tandem.lookahead
  record := tandem.record
  mark := fun related _ _ _ later => tandem.skip related later
  word := by
    intro s t c related present letter later
    obtain ⟨name, after⟩ := tandem.identifier related later
    have shown := (tandem.lookahead related).symm.trans present
    refine ⟨after, ?_⟩
    rw [Scanner.lastEnd_identifier present letter, Scanner.lastEnd_identifier shown letter, name,
      tandem.position related, Nat.add_right_comm]
    rfl
  literal := by
    intro s t c related present other digit later
    obtain ⟨digits, after⟩ := tandem.integer related later
    have shown := (tandem.lookahead related).symm.trans present
    refine ⟨after, digits, fun value => ?_⟩
    rw [Scanner.lastEnd_integer present digit, Scanner.lastEnd_integer shown digit, digits,
      tandem.position related, Nat.add_right_comm]
    rfl
  join := by
    rintro s t op _ m _ q related _ rfl rfl
    rw [Expr.shift_join, tandem.position related]

theorem descent (tandem : Tandem Need R distance) {part : Part} {room : Nat} {rest : Scanner σ}
    {result : Except Diagnostic Expr} (h : Descent part room s result rest) (later : Need rest)
    (related : R s t) :
    ∃ other last, Descent part room t other last ∧
      Answer.tree result = (Answer.tree other).shift distance ∧ R rest last := by
  obtain ⟨other, last, like, agree, after⟩ := tandem.lockstep.descent h later related
  refine ⟨other, last, like, ?_, after⟩
  cases agree with
  | ok same => rw [same]; rfl
  | error fault stands => rw [tandem.position stands]; rfl

/-- The same answer but for the distance, from scanners that stay related. -/
def Outcome (R : Scanner σ → Scanner τ → Prop) (distance : Nat) (x : Answer × Scanner σ)
    (y : Answer × Scanner τ) : Prop :=
  x.1 = y.1.shift distance ∧ R x.2 y.2

section Step

variable (tandem : Tandem Need R distance) (related : R s t)
include tandem related

theorem operator? : s.operator? = t.operator? := tandem.lockstep.operator? related

theorem expect (c : Char) (later : Need (s.expect c).2) :
    Outcome R distance (.matched (s.expect c).1, (s.expect c).2)
      (.matched (t.expect c).1, (t.expect c).2) := by
  have shown := tandem.lookahead related
  by_cases present : s.lookahead = some c
  · have also := shown.symm.trans present
    simp only [Scanner.expect, present, also, if_true] at later ⊢
    exact ⟨rfl, tandem.skip related later⟩
  · have also : t.lookahead ≠ some c := shown ▸ present
    simp only [Scanner.expect, present, also, if_false]
    refine ⟨?_, related⟩
    rw [shown, tandem.position related]
    rfl

theorem integerAnswer (later : Need s.integer.2) :
    Outcome R distance (.integer s.integer.1, s.integer.2) (.integer t.integer.1, t.integer.2) := by
  obtain ⟨digits, after⟩ := tandem.integer related later
  refine ⟨?_, after⟩
  rw [Scanner.integer_fst, Scanner.integer_fst, digits, tandem.position related]
  split <;> rfl

theorem takeOperator (later : Need s.takeOperator.2) :
    Outcome R distance (.operator s.takeOperator.1, s.takeOperator.2)
      (.operator t.takeOperator.1, t.takeOperator.2) := by
  have same := tandem.operator? related
  cases found : s.operator? with
  | none =>
    rw [found] at same
    simp only [Scanner.takeOperator, found, ← same]
    exact ⟨rfl, related⟩
  | some op =>
    rw [found] at same
    simp only [Scanner.takeOperator, found, ← same] at later ⊢
    exact ⟨rfl, tandem.skip related later⟩

theorem factor (room : Nat) (later : Need ((Parser.factor room).run s).2) :
    Outcome R distance (.tree ((Parser.factor room).run s).1, ((Parser.factor room).run s).2)
      (.tree ((Parser.factor room).run t).1, ((Parser.factor room).run t).2) := by
  obtain ⟨other, last, like, same, after⟩ :=
    tandem.descent (Parser.descent_factor room s) later related
  rw [Parser.run_factor_iff.mpr like]
  exact ⟨same, after⟩

theorem chain (room : Nat) (power : Power) (later : Need ((Parser.ofPower room power).run s).2) :
    Outcome R distance
      (.tree ((Parser.ofPower room power).run s).1, ((Parser.ofPower room power).run s).2)
      (.tree ((Parser.ofPower room power).run t).1, ((Parser.ofPower room power).run t).2) := by
  obtain ⟨other, last, like, same, after⟩ :=
    tandem.descent (Parser.descent_ofPower room power s) later related
  rw [Parser.run_chain_iff.mpr like]
  exact ⟨same, after⟩

theorem sum (later : Need (Parser.parse s).2) :
    Outcome R distance
      (.tree ((Parser.sum nestingLimit).run s).1, ((Parser.sum nestingLimit).run s).2)
      (.tree ((Parser.sum nestingLimit).run t).1, ((Parser.sum nestingLimit).run t).2) := by
  obtain ⟨event, parsed⟩ := Parser.parse_eq s
  rw [parsed] at later
  exact tandem.chain related nestingLimit .additive
    (tandem.need (Scanner.Onward.here.record event) later)

theorem parse (later : Need (Parser.parse s).2) :
    Outcome R distance (.tree (Parser.parse s).1, (Parser.parse s).2)
      (.tree (Parser.parse t).1, (Parser.parse t).2) := by
  obtain ⟨same, after⟩ := tandem.sum related later
  obtain ⟨a, first⟩ := Parser.parse_eq s
  obtain ⟨b, second⟩ := Parser.parse_eq t
  rw [first, second]
  exact ⟨same, tandem.record after a b⟩

theorem parseComplete (later : Need (Parser.parseComplete s).2) :
    Outcome R distance (.tree (Parser.parseComplete s).1, (Parser.parseComplete s).2)
      (.tree (Parser.parseComplete t).1, (Parser.parseComplete t).2) := by
  rw [Parser.parseComplete_snd] at later
  obtain ⟨same, after⟩ := tandem.sum related later
  have same := Answer.tree.inj same
  have shown : ((Parser.sum nestingLimit).run s).2.lookahead =
      ((Parser.sum nestingLimit).run t).2.lookahead := tandem.lookahead after
  have moved : ((Parser.sum nestingLimit).run s).2.position =
      ((Parser.sum nestingLimit).run t).2.position + distance := tandem.position after
  constructor
  · simp only [Parser.parseComplete_fst, same, shown, moved]
    cases ((Parser.sum nestingLimit).run t).1 with
    | error d => rfl
    | ok e => cases ((Parser.sum nestingLimit).run t).2.lookahead <;> rfl
  · simp only [Parser.parseComplete_snd]
    exact (tandem.parse related later).2

/-- One step: every operation gives the same answer on both sides, but for the distance. -/
theorem perform (operation : Operation) (later : Need (s.perform operation).2) :
    Outcome R distance (s.perform operation) (t.perform operation) := by
  cases operation with
  | skip => exact ⟨rfl, tandem.skip related later⟩
  | expect c => exact tandem.expect related c later
  | identifier =>
    obtain ⟨name, after⟩ := tandem.identifier related later
    exact ⟨congrArg Answer.name name, after⟩
  | integer => exact tandem.integerAnswer related later
  | peekOperator => exact ⟨congrArg Answer.operator (tandem.operator? related), related⟩
  | takeOperator => exact tandem.takeOperator related later
  | factor => exact tandem.factor related nestingLimit later
  | product => exact tandem.chain related nestingLimit .multiplicative later
  | sum => exact tandem.chain related nestingLimit .additive later
  | parse => exact tandem.parse related later
  | parseComplete => exact tandem.parseComplete related later

end Step

/-- All steps: the answers are the same but for the distance, and the views are what related scanners
show. -/
theorem play (tandem : Tandem Need R distance) {V : View → View → Prop}
    (seen : ∀ {s t}, R s t → V s.view t.view) (related : R s t) (operations : List Operation)
    (later : Need (s.playThrough operations)) :
    List.Forall₂ (fun x y => x.1 = y.1.shift distance ∧ V x.2 y.2) (s.play operations)
      (t.play operations) := by
  induction operations generalizing s t with
  | nil => exact .nil
  | cons operation operations ih =>
    have next := tandem.need (Scanner.onward_playThrough _ operations) later
    obtain ⟨same, after⟩ := tandem.perform related operation next
    exact .cons ⟨same, seen after⟩ (ih after later)

theorem play_eq (tandem : Tandem Need R 0) (seen : ∀ {s t}, R s t → s.view = t.view)
    (related : R s t) (operations : List Operation) (later : Need (s.playThrough operations)) :
    s.play operations = t.play operations := by
  have steps := (tandem.play seen related operations later).imp
    fun x y step => Prod.ext (step.1.trans (Answer.shift_zero y.1)) step.2
  rwa [List.forall₂_eq_eq_eq] at steps

end Tandem

end Reckoner
