import Reckoner.Expr.Basic

/-! Trees written out with every binary node in parentheses.

`form` defines the text by recursion on the tree. `display` writes it from left to right with a
stack of what is still to be written, so that deep trees need no deep recursion, and
`display_eq_form` says that the two agree. -/
namespace Reckoner.Expr

/-- The fully parenthesized form. -/
def form : Expr → String
  | number value _ => Word.text value
  | symbol name _ => name
  | binary operator _ left right _ =>
    "(" ++ left.form ++ " " ++ operator.text ++ " " ++ right.form ++ ")"

theorem toList_form_binary (op : Operator) (position : Nat) (left right : Expr) (span : Span) :
    (binary op position left right span).form.toList =
      '(' :: (left.form.toList ++ ' ' :: op.symbol :: ' ' :: (right.form.toList ++ [')'])) := by
  simp [form, Operator.text]

inductive Piece where
  | tree (e : Expr)
  | mark (text : String)

def Piece.weight : Piece → Nat
  | tree e => 3 * e.size
  | mark _ => 1

def Piece.weights : List Piece → Nat
  | [] => 0
  | piece :: rest => piece.weight + weights rest

/-- Writes pending pieces after what is already written. -/
def write : List Piece → String → String
  | [], written => written
  | .mark text :: pending, written => write pending (written ++ text)
  | .tree (number value _) :: pending, written => write pending (written ++ Word.text value)
  | .tree (symbol name _) :: pending, written => write pending (written ++ name)
  | .tree (binary operator _ left right _) :: pending, written =>
    write (.tree left :: .mark (" " ++ operator.text ++ " ") ::
      .tree right :: .mark ")" :: pending) (written ++ "(")
termination_by pending => Piece.weights pending
decreasing_by all_goals simp only [Piece.weights, Piece.weight, size]; omega

def display (e : Expr) : String := write [.tree e] ""

theorem write_tree (e : Expr) (pending : List Piece) (written : String) :
    write (.tree e :: pending) written = write pending (written ++ e.form) := by
  induction e generalizing pending written with
  | number | symbol => rw [write]; rfl
  | binary operator position left right span ihl ihr =>
    simp [write, ihl, ihr, form, String.append_assoc]

@[simp] theorem display_eq_form (e : Expr) : e.display = e.form := by
  simp [display, write_tree, write]

end Reckoner.Expr
