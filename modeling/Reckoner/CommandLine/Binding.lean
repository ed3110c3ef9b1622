import Reckoner.Text.Pattern
import Reckoner.Word

/-! Bindings as they are given on the command line: `NAME=VALUE`, with a letter and then letters
and digits for a name and a decimal integer for a value. The form is a pattern, and which engine
captures its two groups is a parameter. -/
namespace Reckoner.CommandLine

open Text (Pattern)

structure Binding where
  name : String
  value : Int64
  deriving DecidableEq, Repr

inductive Misbinding where
  | form (argument : String)
  | range (literal : String)
  deriving DecidableEq, Repr

def Misbinding.message : Misbinding → String
  | form argument => "`" ++ argument ++ "` is not of the form NAME=VALUE"
  | range literal => "`" ++ literal ++ "` does not fit in a 64-bit integer"

namespace Binding

def letters : Text.Intervals := [('A', 'Z'), ('a', 'z')]
def digits : Text.Intervals := [('0', '9')]

def namePattern : Pattern := .seq (.run letters .once) (.run (letters ++ digits) .any)

def literalPattern : Pattern := .seq (.run [('-', '-')] .optional) (.run digits .some)

/-- Only ASCII counts here, and nothing may stand around or between the parts. -/
def pattern : Pattern :=
  .seq .start (.seq (.group namePattern) (.seq (.run [('=', '=')] .once)
    (.seq (.group literalPattern) .stop)))

example : pattern.source = "^([A-Za-z][A-Za-z0-9]*)=(-?[0-9]+)$" := by decide

/-- An integer literal as its sign and its digits. -/
def magnitude : List Char → Bool × List Char
  | '-' :: digits => (true, digits)
  | digits => (false, digits)

def literalValue? (literal : List Char) : Option Int64 :=
  match magnitude literal with
  | (true, digits) => Word.ofNegatedDigits? digits
  | (false, digits) => Word.ofDigits? digits

def parse (captures : Pattern.Engine) (argument : String) : Except Misbinding Binding :=
  match captures pattern argument with
  | some [_, name, literal] =>
    match literalValue? literal.toList with
    | some value => .ok ⟨name, value⟩
    | none => .error (.range literal)
  | _ => .error (.form argument)

end Binding

end Reckoner.CommandLine
