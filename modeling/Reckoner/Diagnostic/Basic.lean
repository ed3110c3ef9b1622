import Reckoner.Fault
import Reckoner.Position

/-! A fault together with the place in the input it is about. -/
namespace Reckoner

/-- Positions count characters from the start of the input. -/
structure Diagnostic where
  fault : Fault
  position : Nat
  deriving DecidableEq, Repr

namespace Diagnostic

def told (d : Diagnostic) : Diagnostic := { d with position := Position.told d.position }

theorem told_of_le {d : Diagnostic} (fits : d.position ≤ Position.greatest) : d.told = d := by
  rw [told, Position.told_of_le fits]

def message (d : Diagnostic) : String := d.fault.message ++ " at " ++ Decimal.ofNat d.position

def heading (d : Diagnostic) : String :=
  match d.fault.tip with
  | some tip => "Error: " ++ d.fault.name ++ " (" ++ tip ++ ")"
  | none => "Error: " ++ d.fault.name

/-- The report for input that is not kept, so that only the position can be told. -/
def summary (d : Diagnostic) : String := d.heading ++ " at " ++ Decimal.ofNat d.position

end Diagnostic

end Reckoner
