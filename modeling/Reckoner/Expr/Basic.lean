import Reckoner.Operator
import Reckoner.Position

/-! Expression trees. Each node remembers the stretch of input it was read from, and a binary
node where its operator stood, which is what arithmetic faults point at. -/
namespace Reckoner

/-- The characters from `start` up to but not including `stop`. -/
structure Span where
  start : Nat
  stop : Nat
  deriving DecidableEq, Repr

def Span.told (span : Span) : Span := ⟨Position.told span.start, Position.told span.stop⟩

inductive Expr where
  | number (value : Int64) (span : Span)
  | symbol (name : String) (span : Span)
  | binary (operator : Operator) (position : Nat) (left right : Expr) (span : Span)
  deriving Repr

namespace Expr

def span : Expr → Span
  | number _ span | symbol _ span | binary _ _ _ _ span => span

/-- A binary node from the start of its left operand to the end of its right one. -/
def join (left : Expr) (operator : Operator) (position : Nat) (right : Expr) : Expr :=
  binary operator position left right ⟨left.span.start, right.span.stop⟩

def size : Expr → Nat
  | number .. | symbol .. => 1
  | binary _ _ left right _ => left.size + right.size + 1

def sizes : List Expr → Nat
  | [] => 0
  | e :: rest => e.size + sizes rest

end Expr

end Reckoner
