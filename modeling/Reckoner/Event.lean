import Reckoner.Diagnostic.Basic
import Reckoner.Expr.Display
import Reckoner.Source.Basic

/-! The trace of a run: what was read, reduced and computed, in order. An event holds the values
it is about; its wording is derived from them. -/
namespace Reckoner

inductive Level where
  | trace
  | debug
  deriving DecidableEq, Repr

/-- The part of a run an event comes from. -/
inductive Origin where
  | scanning
  | reduction
  | parsing
  | evaluation
  deriving DecidableEq, Repr

inductive Event where
  | identifierRead (name : String)
  | integerRead (literal : String)
  | sourceFailed (failure : Failure)
  | reduced (operator : Operator) (position : Nat)
  | parsed (tree : Expr) (atEnd : Bool)
  | parseFailed (diagnostic : Diagnostic)
  | evaluating (bindings : Nat)
  | applied (left : Int64) (operator : Operator) (right value : Int64)
  | evaluated (tree : Expr) (value : Int64)
  | evaluationFailed (tree : Expr) (diagnostic : Diagnostic)

/-- A failure is noted, an end is not. -/
def Reading.events : Reading → List Event
  | failed failure => [.sourceFailed failure]
  | char _ | ended => []

namespace Event

def level : Event → Level
  | identifierRead _ | integerRead _ | reduced .. | applied .. => .trace
  | _ => .debug

def origin : Event → Origin
  | identifierRead _ | integerRead _ | sourceFailed _ => .scanning
  | reduced .. => .reduction
  | parsed .. | parseFailed _ => .parsing
  | evaluating _ | applied .. | evaluated .. | evaluationFailed .. => .evaluation

def message : Event → String
  | identifierRead _ => "read identifier"
  | integerRead _ => "read integer"
  | sourceFailed _ => "source failed, treating as end of input"
  | reduced .. => "reduced binary expression"
  | parsed .. => "parsed expression"
  | parseFailed _ => "parse failed"
  | evaluating _ => "evaluating expression"
  | applied .. => "evaluated binary expression"
  | evaluated .. => "evaluated expression"
  | evaluationFailed .. => "evaluation failed"

/-- The named values of an event, as text. -/
def fields : Event → List (String × String)
  | identifierRead name => [("identifier", name)]
  | integerRead literal => [("literal", literal)]
  | sourceFailed failure => [("error", failure.message)]
  | reduced operator position =>
    [("operator", operator.text), ("position", Decimal.ofNat (Position.told position))]
  | parsed tree atEnd => [("tree", tree.display), ("at_end", if atEnd then "true" else "false")]
  | parseFailed diagnostic => [("error", diagnostic.told.message)]
  | evaluating bindings => [("bindings", Decimal.ofNat bindings)]
  | applied left operator right value =>
    [("left", Word.text left), ("operator", operator.text),
      ("right", Word.text right), ("value", Word.text value)]
  | evaluated tree value => [("tree", tree.display), ("value", Word.text value)]
  | evaluationFailed tree diagnostic => [("tree", tree.display), ("error", diagnostic.told.message)]

end Event

end Reckoner
