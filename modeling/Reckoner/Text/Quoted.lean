import Reckoner.Text.Extender
import Reckoner.Text.Ignorable
import Reckoner.Text.Unprintable

/-! Quoted characters and texts, as messages show them.

The quote mark itself and the backslash take a backslash, a few controls have a letter of their
own, and whatever would be invisible or would merge with the quote mark is written by its code
point in hexadecimal. A text is quoted character by character. -/
namespace Reckoner.Text

/-- Whether a character could not be recognized if it stood in quotes as it is. -/
def isHidden (c : Char) : Bool := isExtender c || isIgnorable c || isUnprintable c

/-- A character as it stands between two marks `mark`. -/
def escape (mark c : Char) : String :=
  if c = mark then String.ofList ['\\', c]
  else if c = '\x00' then "\\0"
  else if c = '\t' then "\\t"
  else if c = '\r' then "\\r"
  else if c = '\n' then "\\n"
  else if c = '\\' then "\\\\"
  else if isHidden c then
    "\\u\x7b" ++ String.ofList (Nat.toDigits 16 c.toNat) ++ "\x7d"
  else String.singleton c

def quoteChar (c : Char) : String := "'" ++ escape '\'' c ++ "'"

def quoteText (text : String) : String :=
  text.toList.foldl (fun written c => written ++ escape '"' c) "\"" ++ "\""

def quoteFound : Option Char → String
  | some c => "Some(" ++ quoteChar c ++ ")"
  | none => "None"

end Reckoner.Text
