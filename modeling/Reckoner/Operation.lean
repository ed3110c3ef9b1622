import Reckoner.Parser

/-! Everything a caller can do with a scanner, as data, so that a whole course of dealings with one
scanner is a list of operations and what it shows is a list of answers and views. -/
namespace Reckoner

inductive Operation where
  | skip
  | expect (c : Char)
  | identifier
  | integer
  | peekOperator
  | takeOperator
  | factor
  | product
  | sum
  | parse
  | parseComplete
  deriving DecidableEq, Repr

inductive Answer where
  | done
  | name (name : String)
  | operator (operator : Option Operator)
  | matched (result : Except Diagnostic Unit)
  | integer (result : Except Diagnostic Int64)
  | tree (result : Except Diagnostic Expr)

/-- What a scanner shows of itself. -/
structure View where
  lookahead : Option Char
  position : Nat
  lastEnd : Nat
  deriving DecidableEq, Repr

def View.told (view : View) : View :=
  { view with position := Position.told view.position, lastEnd := Position.told view.lastEnd }

namespace Scanner

variable {σ : Type} [Source σ]

def view (s : Scanner σ) : View := ⟨s.lookahead, s.position, s.lastEnd⟩

def perform (s : Scanner σ) : Operation → Answer × Scanner σ
  | .skip => (.done, s.skip)
  | .expect c => let (result, s) := s.expect c; (.matched result, s)
  | .identifier => let (name, s) := s.identifier; (.name name, s)
  | .integer => let (result, s) := s.integer; (.integer result, s)
  | .peekOperator => (.operator s.operator?, s)
  | .takeOperator => let (operator, s) := s.takeOperator; (.operator operator, s)
  | .factor => let (result, s) := (Parser.factor nestingLimit).run s; (.tree result, s)
  | .product => let (result, s) := (Parser.product nestingLimit).run s; (.tree result, s)
  | .sum => let (result, s) := (Parser.sum nestingLimit).run s; (.tree result, s)
  | .parse => let (result, s) := Parser.parse s; (.tree result, s)
  | .parseComplete => let (result, s) := Parser.parseComplete s; (.tree result, s)

/-- The answers to operations in turn, each with the view after it. -/
def play (s : Scanner σ) : List Operation → List (Answer × View)
  | [] => []
  | operation :: rest =>
    let (answer, s) := s.perform operation
    (answer, s.view) :: s.play rest

def playThrough (s : Scanner σ) (operations : List Operation) : Scanner σ :=
  operations.foldl (fun s operation => (s.perform operation).2) s

end Scanner

end Reckoner
