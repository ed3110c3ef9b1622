import Reckoner.Diagnostic.Basic
import Reckoner.Text.Lines

/-! A diagnostic drawn against the text it is about: the heading, the line in question without
its indentation, and a caret under the character.

```text
Error: UnexpectedCharacter (Expected `)` but found end of input)
  |
1 | (1 + 2
  | ------^
```

The caret is set by padding, and a padding wider than `widest` cannot be set. Rendering then
gives no text. -/
namespace Reckoner

/-- The widest field that padding can fill. -/
def widest : Nat := 65535

structure Overwide where
  width : Nat
  deriving DecidableEq, Repr

def Overwide.message (_ : Overwide) : String := "Formatting argument out of range"

namespace Diagnostic

def isIndent (c : Char) : Bool := c = ' ' || c = '\t'

def repeated (c : Char) (count : Nat) : String := String.ofList (List.replicate count c)

/-- The width of the caret line after its bar, the caret included. -/
def caretWidth (place : Text.Place) : Nat :=
  place.column - (place.line.takeWhile isIndent).length + 1

def shownLine (place : Text.Place) : List Char := Text.trimEnd (place.line.dropWhile isIndent)

def render (d : Diagnostic) (text : String) : Except Overwide String :=
  let place := Text.placeOf text.toList d.position
  let number := Decimal.ofNat place.number
  let bar := repeated ' ' (number.length + 1) ++ "|"
  let width := caretWidth place
  if width ≤ widest then
    .ok (d.heading ++ "\n" ++ bar ++ "\n" ++
      number ++ " | " ++ String.ofList (shownLine place) ++ "\n" ++
      bar ++ " " ++ repeated '-' (width - 1) ++ "^")
  else .error ⟨width⟩

end Diagnostic

end Reckoner
