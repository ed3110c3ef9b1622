import Reckoner.Proofs.Layout
import Reckoner.Proofs.Nesting

/-! Precedence and associativity. The operands of a node bind at least as tightly as their place
asks for, and those that do not are in parentheses (`Expr.Grouped`). What was read as a part of the
grammar has at its root an operator that the part admits, or stands between parentheses which the
part has taken (`Descent.grouped`); a part admits an operator exactly if the place of the part in a
chain does. -/
namespace Reckoner

/-- A character stands somewhere from one position of a text up to another. -/
def Text.Between (text : List Char) (p q : Nat) (c : Char) : Prop :=
  ∃ i, p ≤ i ∧ i < q ∧ text[i]? = some c

namespace Expr

/-- One tree is at a node of another. -/
inductive Occurs (node : Expr) : Expr → Prop where
  | here : Occurs node node
  | left {op : Operator} {position : Nat} {left right : Expr} {span : Span}
      (inside : Occurs node left) : Occurs node (.binary op position left right span)
  | right {op : Operator} {position : Nat} {left right : Expr} {span : Span}
      (inside : Occurs node right) : Occurs node (.binary op position left right span)

/-- The operator at the root. -/
def operator? : Expr → Option Operator
  | binary op .. => some op
  | number .. | symbol .. => none

/-- A left operand that binds more loosely than its node is closed by a parenthesis before the
operator, and a right one that does not bind more tightly is opened by one after it. -/
def Grouped (text : List Char) : Expr → Prop
  | number .. | symbol .. => True
  | binary op position left right _ => left.Grouped text ∧ right.Grouped text ∧
      (∀ inner, left.operator? = some inner → inner.power < op.power →
        Text.Between text left.span.stop position ')') ∧
      ∀ inner, right.operator? = some inner → ¬op.power < inner.power →
        Text.Between text (position + 1) right.span.start '('

/-- A tree with a parenthesis on either side of it, between two positions. -/
structure Enclosed (text : List Char) (p : Nat) (e : Expr) (q : Nat) : Prop where
  opening : Text.Between text p e.span.start '('
  closing : Text.Between text e.span.stop q ')'

end Expr

/-- The powers that the root of a part may have without parentheses. -/
def Part.Admits : Part → Power → Prop
  | .factor, _ => False
  | .spine power, inner | .chain power, inner => ¬inner < power

theorem Part.admits_operand_iff (power inner : Power) :
    power.operand.Admits inner ↔ power < inner := by
  cases power <;> cases inner <;> simp only [Power.operand, Part.Admits] <;> decide

theorem Power.lt_irrefl (p : Power) : ¬p < p := by
  cases p <;> decide

theorem Power.not_lt_of_lt {p q : Power} (h : p < q) : ¬q < p := by
  revert h
  cases p <;> cases q <;> decide

theorem Power.not_lt_trans {p q r : Power} (h : ¬p < q) (k : ¬q < r) : ¬p < r := by
  revert h k
  cases p <;> cases q <;> cases r <;> decide

theorem Scanner.position_lt_skip {σ : Type} [Source σ] {s : Scanner σ} {c : Char}
    (present : s.lookahead = some c) : s.position < s.skip.position := by
  have moved := (Onward.skipBlanks s.advance).position_le
  rw [position_advance present] at moved
  exact moved

variable {σ : Type} [Source σ]

theorem Descent.grouped {part : Part} {room : Nat} {s rest : Scanner σ} {text : List Char}
    {result : Except Diagnostic Expr} (h : Descent part room s result rest) (along : s.Along text)
    {e : Expr} (ok : result = .ok e) :
    e.Grouped text ∧ ∀ inner, e.operator? = some inner →
      part.Admits inner.power ∨ e.Enclosed text s.position rest.position := by
  induction h generalizing e with
  | symbol | number =>
    obtain rfl := Except.ok.inj ok
    exact ⟨trivial, fun inner root => by contradiction⟩
  | tooLarge | noFactor | tooDeep | unclosed | groupFails | firstFails | againFails =>
    contradiction
  | @group room s rest f present inner closed ih =>
    have inside := along.onward (.skip s)
    have after := inside.onward inner.onward
    have laid := inner.laid inside ok
    have past := Nat.lt_of_lt_of_le (Scanner.position_lt_skip present) laid.start
    refine ⟨(ih inside ok).1, fun _ _ => .inr ⟨?_, ?_⟩⟩
    · exact ⟨s.position, Nat.le_refl _, past, along.lookahead ▸ present⟩
    · exact ⟨rest.position, laid.stop, Scanner.position_lt_skip closed, after.lookahead ▸ closed⟩
  | @first room power s rest f operand ih =>
    obtain ⟨grouped, root⟩ := ih along ok
    refine ⟨grouped, fun inner found => ?_⟩
    rcases root inner found with admitted | enclosed
    · exact .inl (Power.not_lt_of_lt ((Part.admits_operand_iff ..).mp admitted))
    · exact .inr enclosed
  | @again room power s middle rest left right op spine found same operand ihs iho =>
    obtain rfl := Except.ok.inj ok
    subst same
    have between := along.onward spine.onward
    obtain ⟨leftGrouped, leftRoot⟩ := ihs along rfl
    obtain ⟨rightGrouped, rightRoot⟩ := iho (between.onward (.skip middle)) rfl
    have past := Scanner.position_lt_skip (Scanner.lookahead_of_operator? found)
    refine ⟨⟨leftGrouped, rightGrouped, ?_, ?_⟩, ?_⟩
    · intro inner root looser
      rcases leftRoot inner root with admitted | enclosed
      · exact absurd looser admitted
      · exact enclosed.closing
    · intro inner root loose
      rcases rightRoot inner root with admitted | enclosed
      · exact absurd ((Part.admits_operand_iff ..).mp admitted) loose
      · obtain ⟨i, low, high, here⟩ := enclosed.opening
        exact ⟨i, Nat.le_trans past low, high, here⟩
    · intro inner root
      obtain rfl := Option.some.inj root
      exact .inl (Power.lt_irrefl _)
  | ended spine stops ih => exact ih along ok

namespace Expr

variable {text : List Char} {e node : Expr}

theorem Grouped.of_occurs (grouped : e.Grouped text) (occurs : Occurs node e) :
    node.Grouped text := by
  induction occurs with
  | here => exact grouped
  | left _ ih => exact ih grouped.1
  | right _ ih => exact ih grouped.2.1

theorem Occurs.exists_operator (occurs : Occurs node e) {inner : Operator}
    (root : node.operator? = some inner) : ∃ op, e.operator? = some op := by
  cases occurs with
  | here => exact ⟨inner, root⟩
  | left | right => exact ⟨_, rfl⟩

theorem not_between_of_flat (flat : Text.Flat text) {p q : Nat} {c : Char}
    (parenthesis : c = '(' ∨ c = ')') : ¬Text.Between text p q c := by
  rintro ⟨i, _, _, here⟩
  obtain ⟨opens, closes⟩ := flat c (List.mem_of_getElem? here)
  rcases parenthesis with rfl | rfl <;> contradiction

theorem Grouped.not_looser (flat : Text.Flat text) (grouped : e.Grouped text)
    (occurs : Occurs node e) {op inner : Operator} (root : e.operator? = some op)
    (found : node.operator? = some inner) : ¬inner.power < op.power := by
  induction occurs generalizing op with
  | here =>
    obtain rfl := Option.some.inj (root.symm.trans found)
    exact Power.lt_irrefl _
  | left inside ih =>
    obtain rfl := Option.some.inj root
    obtain ⟨leftGrouped, _, closed, _⟩ := grouped
    obtain ⟨middle, next⟩ := inside.exists_operator found
    refine Power.not_lt_trans (ih leftGrouped next) fun looser => ?_
    exact not_between_of_flat flat (.inr rfl) (closed middle next looser)
  | right inside ih =>
    obtain rfl := Option.some.inj root
    obtain ⟨_, rightGrouped, _, opened⟩ := grouped
    obtain ⟨middle, next⟩ := inside.exists_operator found
    refine Power.not_lt_trans (ih rightGrouped next) fun looser => ?_
    exact not_between_of_flat flat (.inl rfl) (opened middle next (Power.not_lt_of_lt looser))

end Expr

/-- At every node of a tree that is read, a right operand that does not bind more tightly than the
node has a parenthesis opened before it, and a left operand that binds more loosely has one closed
after it. So in a text without parentheses no sum is below a product, and what a right operand
joins binds more tightly than its node. -/
theorem parseText_grouped (text : String) (e : Expr) (read : Parser.parseText text = .ok e) :
    (∀ op position left right span, Expr.Occurs (.binary op position left right span) e →
      (∀ inner, right.operator? = some inner → ¬op.power < inner.power →
        ∃ i, position < i ∧ i < right.span.start ∧ text.toList[i]? = some '(') ∧
      ∀ inner, left.operator? = some inner → inner.power < op.power →
        ∃ i, left.span.stop ≤ i ∧ i < position ∧ text.toList[i]? = some ')') ∧
    (Text.Flat text.toList →
      ∀ op position left right span, Expr.Occurs (.binary op position left right span) e →
      (∀ node inner, Expr.Occurs node left ∨ Expr.Occurs node right →
        node.operator? = some inner → ¬(op.power = .multiplicative ∧ inner.power = .additive)) ∧
      ∀ inner, right.operator? = some inner → op.power < inner.power) := by
  obtain ⟨rest, descent, _⟩ := Parser.parseComplete_ok_iff.mp read
  obtain ⟨grouped, _⟩ := descent.grouped (Scanner.along_ofText text) rfl
  refine ⟨?_, ?_⟩
  · intro op position left right span occurs
    obtain ⟨_, _, closed, opened⟩ := grouped.of_occurs occurs
    exact ⟨opened, closed⟩
  · intro flat op position left right span occurs
    have here := grouped.of_occurs occurs
    refine ⟨?_, ?_⟩
    · rintro node inner below found ⟨product, sum⟩
      have inside : node.Occurs (.binary op position left right span) := by
        rcases below with below | below
        · exact .left below
        · exact .right below
      have tight := here.not_looser flat inside rfl found
      rw [product, sum] at tight
      exact absurd tight (by decide)
    · intro inner found
      by_contra loose
      exact Expr.not_between_of_flat flat (.inl rfl) (here.2.2.2 inner found loose)

/-- A sum before a product and a difference after a difference need their parentheses. A difference
before a product needs none. -/
theorem parseText_grouped_both :
    (∃ e, Parser.parseText "(a+b)*c-(d-e)" = .ok e ∧
      (∃ i, 4 ≤ i ∧ i < 5 ∧ "(a+b)*c-(d-e)".toList[i]? = some ')') ∧
      ∃ i, 7 < i ∧ i < 9 ∧ "(a+b)*c-(d-e)".toList[i]? = some '(') ∧
    ∃ e, Parser.parseText "a-b*c/d" = .ok e ∧ Text.Flat "a-b*c/d".toList ∧
      ∀ op position left right span, Expr.Occurs (.binary op position left right span) e →
        ∀ inner, right.operator? = some inner → op.power < inner.power := by
  have read : Parser.parseText "(a+b)*c-(d-e)" =
      .ok (.binary .minus 7
        (.binary .times 5
          (.binary .plus 2 (.symbol "a" ⟨1, 2⟩) (.symbol "b" ⟨3, 4⟩) ⟨1, 4⟩)
          (.symbol "c" ⟨6, 7⟩) ⟨1, 7⟩)
        (.binary .minus 10 (.symbol "d" ⟨9, 10⟩) (.symbol "e" ⟨11, 12⟩) ⟨9, 12⟩) ⟨1, 12⟩) := by
    decide +kernel
  have readFlat : Parser.parseText "a-b*c/d" =
      .ok (.binary .minus 1 (.symbol "a" ⟨0, 1⟩)
        (.binary .divide 5
          (.binary .times 3 (.symbol "b" ⟨2, 3⟩) (.symbol "c" ⟨4, 5⟩) ⟨2, 5⟩)
          (.symbol "d" ⟨6, 7⟩) ⟨2, 7⟩) ⟨0, 7⟩) := by
    decide +kernel
  have plain : "a-b*c/d".toList.all (fun c => c != '(' && c != ')') = true := by decide +kernel
  have flat : Text.Flat "a-b*c/d".toList := fun c member => by
    simpa using List.all_eq_true.mp plain c member
  have product := ((parseText_grouped _ _ read).1 _ _ _ _ _ (.left .here)).2
  have difference := ((parseText_grouped _ _ read).1 _ _ _ _ _ .here).1
  refine ⟨⟨_, read, ?_, ?_⟩, _, readFlat, flat, ?_⟩
  · exact product .plus rfl (by decide)
  · exact difference .minus rfl (by decide)
  · intro op position left right span occurs
    exact ((parseText_grouped _ _ readFlat).2 flat op position left right span occurs).2

end Reckoner
