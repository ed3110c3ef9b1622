import Reckoner.Fault
import Reckoner.Word

/-! The four binary operators: how each is written, how tightly it binds, and what it computes.

An operator is applied to two words through exact integers. `apply_eq_ok_iff` says when there is
a result and which: no division by zero, and an exact value that fits. -/
namespace Reckoner

/-- How tightly an operator binds, loosest first. -/
inductive Power where
  | additive
  | multiplicative
  deriving DecidableEq, Repr

namespace Power

def level : Power → Nat
  | additive => 0
  | multiplicative => 1

instance : LT Power := ⟨fun a b => a.level < b.level⟩
instance (a b : Power) : Decidable (a < b) := inferInstanceAs (Decidable (a.level < b.level))

end Power

inductive Operator where
  | plus
  | minus
  | times
  | divide
  deriving DecidableEq, Repr

namespace Operator

def all : List Operator := [plus, minus, times, divide]

def symbol : Operator → Char
  | plus => '+'
  | minus => '-'
  | times => '*'
  | divide => '/'

def text (op : Operator) : String := String.singleton op.symbol

def power : Operator → Power
  | plus | minus => .additive
  | times | divide => .multiplicative

def ofSymbol? (c : Char) : Option Operator := all.find? fun op => op.symbol = c

theorem ofSymbol?_eq_some_iff (c : Char) (op : Operator) : ofSymbol? c = some op ↔ op.symbol = c := by
  constructor
  · intro h
    simpa using List.find?_some h
  · rintro rfl
    cases op <;> rfl

theorem symbol_injective {a b : Operator} (same : a.symbol = b.symbol) : a = b := by
  have found := (ofSymbol?_eq_some_iff b.symbol a).mpr same
  rw [(ofSymbol?_eq_some_iff b.symbol b).mpr rfl] at found
  exact (Option.some.inj found).symm

/-- The value over unbounded integers; division goes toward zero. -/
def exactValue : Operator → Int → Int → Int
  | plus, left, right => left + right
  | minus, left, right => left - right
  | times, left, right => left * right
  | divide, left, right => left.tdiv right

/-- An application written out, `left op right`. -/
def operation (op : Operator) (left right : Int) : String :=
  Decimal.ofInt left ++ " " ++ op.text ++ " " ++ Decimal.ofInt right

def apply (op : Operator) (left right : Int64) : Except Fault Int64 :=
  if op = divide ∧ right = 0 then .error .divisionByZero
  else match Word.ofInt? (op.exactValue left.toInt right.toInt) with
    | some value => .ok value
    | none => .error (.overflow (op.operation left.toInt right.toInt))

theorem apply_eq_ok_iff (op : Operator) (left right value : Int64) :
    op.apply left right = .ok value ↔
      ¬(op = divide ∧ right = 0) ∧ op.exactValue left.toInt right.toInt = value.toInt := by
  unfold apply
  split
  · next h => simp [h]
  · next h =>
    rw [← Word.ofInt?_eq_some_iff]
    split
    · next v hv => simp [h, hv]
    · next hv => simp [hv]

end Operator

end Reckoner
