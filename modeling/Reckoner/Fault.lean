import Reckoner.Decimal
import Reckoner.Text.Quoted

/-! What can go wrong with an expression, as causes. The wording of each cause is here too: its
name, the one-line message and the tip that a report shows beside the name. -/
namespace Reckoner

inductive Stage where
  | parsing
  | arithmetic
  deriving DecidableEq, Repr

/-- A missing `found` means that the input ended where a character was needed. -/
inductive Fault where
  | unexpectedCharacter (expected : Char) (found : Option Char)
  | expectedFactor (found : Option Char)
  | numberTooLarge (token : String)
  | nestingTooDeep (limit : Nat)
  | trailingInput (found : Char)
  | divisionByZero
  | overflow (operation : String)
  deriving DecidableEq, Repr

namespace Fault

def stage : Fault → Stage
  | divisionByZero | overflow _ => .arithmetic
  | _ => .parsing

def name : Fault → String
  | unexpectedCharacter .. => "UnexpectedCharacter"
  | expectedFactor _ => "ExpectedFactor"
  | numberTooLarge _ => "NumberParseError"
  | nestingTooDeep _ => "NestingTooDeep"
  | trailingInput _ => "TrailingInput"
  | divisionByZero => "DivisionByZero"
  | overflow _ => "ArithmeticOverflow"

/-- Messages quote, so that no character of the input can be mistaken for the wording. -/
def message : Fault → String
  | unexpectedCharacter expected found =>
    "expected " ++ Text.quoteChar expected ++ " but found " ++ Text.quoteFound found
  | expectedFactor _ => "expected a factor"
  | numberTooLarge token => "error parsing number: " ++ Text.quoteText token
  | nestingTooDeep limit => "parentheses nested deeper than " ++ Decimal.ofNat limit
  | trailingInput found => "unscanned input after parsing: " ++ Text.quoteChar found
  | divisionByZero => "division by zero"
  | overflow operation => "arithmetic overflow in " ++ Text.quoteText operation

def ticked (text : String) : String := "`" ++ text ++ "`"

/-- The character met where another was needed. -/
def describe : Option Char → String
  | some c => ticked (String.singleton c)
  | none => "end of input"

def tip : Fault → Option String
  | unexpectedCharacter expected found =>
    some ("Expected " ++ ticked (String.singleton expected) ++ " but found " ++ describe found)
  | expectedFactor found => some ("Expected a factor but found " ++ describe found)
  | numberTooLarge token =>
    some ("Invalid number: " ++ ticked token ++ ", is it above the integer limit?")
  | nestingTooDeep limit =>
    some ("Parentheses may be nested at most " ++ Decimal.ofNat limit ++ " deep")
  | trailingInput found =>
    some ("Unscanned input starting at " ++ ticked (String.singleton found) ++
      ", did you miss an operator?")
  | divisionByZero => none
  | overflow operation => some (ticked operation ++ " does not fit in a 64-bit integer")

end Fault

end Reckoner
