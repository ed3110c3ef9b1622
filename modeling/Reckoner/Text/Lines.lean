import Reckoner.Text.Blank

/-! A text as lines, and the place of a character among them.

A line keeps its line feed, so the lines of a text put together again are the text. A position
past the end has no character; its place is just after the last visible character. -/
namespace Reckoner.Text

def consLine (c : Char) : List (List Char) → List (List Char)
  | [] => [[c]]
  | line :: rest => if c = '\n' then [c] :: line :: rest else (c :: line) :: rest

/-- The lines of a text, each with the line feed that ends it. -/
def lines (cs : List Char) : List (List Char) := cs.foldr consLine []

theorem flatten_consLine (c : Char) (ls : List (List Char)) :
    (consLine c ls).flatten = c :: ls.flatten := by
  cases ls with
  | nil => rfl
  | cons line rest => by_cases h : c = '\n' <;> simp [consLine, h]

@[simp] theorem flatten_lines (cs : List Char) : (lines cs).flatten = cs := by
  induction cs with
  | nil => rfl
  | cons c cs ih =>
    have step : lines (c :: cs) = consLine c (lines cs) := rfl
    rw [step, flatten_consLine, ih]

/-- A line by its number, counted from one, and a column in it, counted from zero. -/
structure Place where
  number : Nat
  line : List Char
  column : Nat
  deriving DecidableEq, Repr

namespace Place

def start : Place := ⟨1, [], 0⟩

/-- Searches numbered lines for the one that holds `offset`, counted from the first of them.
`fallback` is the end of the last visible text met so far. -/
def search (offset number : Nat) (fallback : Place) : List (List Char) → Place
  | [] => fallback
  | line :: rest =>
    if offset < line.length then ⟨number, line, offset⟩
    else
      let visible := (trimEnd line).length
      let fallback := if 0 < visible then ⟨number, line, visible⟩ else fallback
      search (offset - line.length) (number + 1) fallback rest

end Place

def placeOf (cs : List Char) (position : Nat) : Place :=
  Place.search position 1 Place.start (lines cs)

end Reckoner.Text
