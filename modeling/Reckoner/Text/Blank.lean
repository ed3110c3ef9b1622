import Reckoner.Text.Ranges

/-! Blank characters: those with the Unicode property White_Space. They separate tokens and are
what trimming a line removes. The control characters U+001C to U+001F and the zero-width
characters are not among them. -/
namespace Reckoner.Text

def blanks : Ranges :=
  [(0x9, 0xD), (0x20, 0x20), (0x85, 0x85), (0xA0, 0xA0), (0x1680, 0x1680), (0x2000, 0x200A),
  (0x2028, 0x2029), (0x202F, 0x202F), (0x205F, 0x205F), (0x3000, 0x3000)]

def isBlank (c : Char) : Bool := Ranges.holds blanks c.toNat

def trimEnd (cs : List Char) : List Char := (cs.reverse.dropWhile isBlank).reverse

end Reckoner.Text
