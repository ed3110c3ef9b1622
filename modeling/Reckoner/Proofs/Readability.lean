import Reckoner.Proofs.ExactValue
import Reckoner.Proofs.RoundTrip

/-! A tree can be told from its written form. Parentheses close every node and the characters of a
leaf are none that follow one, so where a form ends is seen without reading on: two forms that start
the same text are the same (`form_append_inj`). This needs no parser. It holds of trees that are too
deep to be read, and of negative numbers, whose sign is also an operator. -/
namespace Reckoner

theorem Word.text_injective {v w : Int64} (same : Word.text v = Word.text w) : v = w :=
  Int64.toInt_inj.mp (Decimal.ofInt_injective same)

theorem Text.IsIdentifier.ne_text {name : String} (h : IsIdentifier name.toList) (value : Int64) :
    name ≠ Word.text value := by
  rintro rfl
  obtain ⟨first, rest, written, letter, _⟩ := h
  have member : first ∈ (Word.text value).toList := by simp [written]
  rcases Decimal.isDigit_or_sign_of_mem_ofInt member with digit | rfl
  · rw [isLetter_of_isDigit digit] at letter
    contradiction
  · contradiction

namespace Expr

open Text

/-- Every name in the tree is an identifier. -/
def Named : Expr → Prop
  | number .. => True
  | symbol name _ => IsIdentifier name.toList
  | binary _ _ left right _ => left.Named ∧ right.Named

/-- The characters that names and numbers are written with. -/
def isInner (c : Char) : Bool := isLetterOrNumeric c || c.isDigit || c == '-'

/-- What can follow a form within another one: no inner character. -/
def Follows (cs : List Char) : Prop := ∀ c, cs.head? = some c → isInner c = false

theorem follows_nil : Follows [] := by simp [Follows]

theorem follows_cons {c : Char} (outer : isInner c = false) (cs : List Char) : Follows (c :: cs) := by
  intro d first
  rwa [← Option.some.inj first]

def IsLeaf : Expr → Prop
  | number .. | symbol .. => True
  | binary .. => False

section Leaf

variable {a b : Expr} {xs ys : List Char}

theorem isInner_of_mem_form (leaf : a.IsLeaf) (named : a.Named) {c : Char}
    (member : c ∈ a.form.toList) : isInner c = true := by
  cases a with
  | number value span =>
    rcases Decimal.isDigit_or_sign_of_mem_ofInt member with digit | rfl
    · simp [isInner, digit]
    · rfl
  | symbol name span =>
    obtain ⟨first, rest, written, letter, continues⟩ := named
    rw [form, written] at member
    rcases List.mem_cons.mp member with rfl | later
    · simp [isInner, isLetterOrNumeric, letter]
    · simp [isInner, continues c later]
  | binary => contradiction

theorem toList_form_ne_nil (named : a.Named) : a.form.toList ≠ [] := by
  cases a with
  | number value span => exact Decimal.toList_ofInt_ne_nil _
  | symbol name span =>
    obtain ⟨first, rest, written, _⟩ := named
    simp [form, written]
  | binary => simp [toList_form_binary]

/-- The text of a leaf says whether it is a number or a name, and which. -/
theorem shape_of_form_eq (leaf : a.IsLeaf) (other : b.IsLeaf) (first : a.Named) (second : b.Named)
    (same : a.form = b.form) : a.shape = b.shape := by
  cases a with
  | number v =>
    cases b with
    | number w => exact congrArg Shape.number (Word.text_injective same)
    | symbol name => exact absurd same.symm (second.ne_text v)
    | binary => contradiction
  | symbol name =>
    cases b with
    | number w => exact absurd same (first.ne_text w)
    | symbol other => exact congrArg Shape.symbol same
    | binary => contradiction
  | binary => contradiction

theorem form_append_ne_opening (leaf : a.IsLeaf) (named : a.Named) :
    a.form.toList ++ xs ≠ '(' :: ys := by
  intro same
  obtain ⟨first, rest, written⟩ := List.exists_cons_of_ne_nil (toList_form_ne_nil named)
  have inner := isInner_of_mem_form leaf named (written ▸ List.mem_cons_self ..)
  rw [written, List.cons_append] at same
  rw [(List.cons.inj same).1] at inner
  contradiction

theorem leaf_append_inj (first : a.Named) (second : b.Named) (follows : Follows xs)
    (other : Follows ys) (same : a.form.toList ++ xs = b.form.toList ++ ys) (leaf : a.IsLeaf) :
    a.shape = b.shape ∧ xs = ys := by
  have leaves (bare : b.IsLeaf) : a.shape = b.shape ∧ xs = ys := by
    obtain ⟨text, rest⟩ := append_inj_of_stop (fun c => isInner_of_mem_form leaf first)
      (fun c => isInner_of_mem_form bare second) follows other same
    exact ⟨shape_of_form_eq leaf bare first second (String.toList_inj.mp text), rest⟩
  cases b with
  | number | symbol => exact leaves trivial
  | binary =>
    rw [toList_form_binary, List.cons_append] at same
    exact absurd same (form_append_ne_opening leaf first)

end Leaf

/-- Unique readability. The text after the left operand starts with a blank and that after the right
one with a parenthesis, so each operand ends in the same place in both texts. -/
theorem form_append_inj {a b : Expr} (first : a.Named) (second : b.Named) {xs ys : List Char}
    (follows : Follows xs) (other : Follows ys)
    (same : a.form.toList ++ xs = b.form.toList ++ ys) : a.shape = b.shape ∧ xs = ys := by
  induction a generalizing b xs ys with
  | number | symbol => exact leaf_append_inj first second follows other same trivial
  | binary op position left right span ihl ihr =>
    cases b with
    | number | symbol =>
      obtain ⟨shape, rest⟩ := leaf_append_inj second first other follows same.symm trivial
      exact ⟨shape.symm, rest.symm⟩
    | binary op' position' left' right' span' =>
      simp only [toList_form_binary, List.cons_append, List.append_assoc, List.nil_append,
        List.cons.injEq, true_and] at same
      obtain ⟨lefts, middle⟩ :=
        ihl first.1 second.1 (follows_cons (by decide) _) (follows_cons (by decide) _) same
      obtain ⟨symbol, rest⟩ := List.cons.inj (List.cons.inj middle).2
      obtain ⟨rights, closing⟩ := ihr first.2 second.2 (follows_cons (by decide) _)
        (follows_cons (by decide) _) (List.cons.inj rest).2
      refine ⟨?_, (List.cons.inj closing).2⟩
      rw [shape, shape, Operator.symbol_injective symbol, lefts, rights]

theorem form_of_shape_eq {a b : Expr} (same : a.shape = b.shape) : a.form = b.form := by
  induction same using induction_of_shape_eq with
  | number | symbol => rfl
  | binary _ _ _ _ _ _ _ _ _ _ _ lefts rights => rw [form, form, lefts, rights]

/-- What is written is the name, the decimal numeral, or both operands in parentheses around the
operator. Trees whose names are identifiers have the same text exactly if they differ in nothing but
the places of their nodes. -/
theorem display_readable :
    (∀ name span, (symbol name span).display = name) ∧
    (∀ value span, (number value span).display = toString value.toInt) ∧
    (∀ op position left right span, (binary op position left right span).display =
      "(" ++ left.display ++ " " ++ op.text ++ " " ++ right.display ++ ")") ∧
    ∀ a b : Expr, a.Named → b.Named → (a.display = b.display ↔ a.shape = b.shape) := by
  simp only [display_eq_form]
  refine ⟨fun _ _ => rfl, fun value _ => Decimal.ofInt_eq_toString value.toInt,
    fun _ _ _ _ _ => rfl, fun a b first second => ⟨fun same => ?_, form_of_shape_eq⟩⟩
  exact (form_append_inj first second follows_nil follows_nil (by rw [same])).1

/-- A sign beside an operator, in two trees with different places. -/
theorem display_readable_signs :
    let a := binary .minus 3 (number (-1) ⟨0, 2⟩) (number Int64.minValue ⟨5, 25⟩) ⟨0, 25⟩
    let b := binary .minus 0 (number (-1) ⟨0, 0⟩) (number Int64.minValue ⟨0, 0⟩) ⟨0, 0⟩
    a.Named ∧ b.Named ∧ a.display = "(-1 - -9223372036854775808)" ∧ a.display = b.display ∧
      a.shape = b.shape := by
  intro a b
  obtain ⟨_, _, _, readable⟩ := display_readable
  have first : a.Named := ⟨trivial, trivial⟩
  have second : b.Named := ⟨trivial, trivial⟩
  have written : a.display = "(-1 - -9223372036854775808)" := by
    rw [display_eq_form]
    decide +kernel
  have same : a.display = b.display := by
    rw [display_eq_form, display_eq_form]
    decide +kernel
  exact ⟨first, second, written, same, (readable a b first second).mp same⟩

end Expr

end Reckoner
