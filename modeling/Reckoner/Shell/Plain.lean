/-! Text for an output that is no terminal: without control sequences and control characters.

A sequence starts with the escape character. An escape sequence and a control sequence end with
their final character, a control string with a terminator or the next escape, and cancelling ends
any of them. Of the control characters only those that lay out text are kept. One of them inside a
sequence is kept as well and so is the text after it; the sequence goes on with the next control
character. This is how the surroundings of the program write what is meant for a terminal, and no
statement about the program rests on it. -/
namespace Reckoner.Shell

/-- Where a character stands: in the text or in a part of a sequence. -/
inductive Stage where
  | text
  | escape
  | escapeIntermediate
  | control
  | deviceOpening
  | deviceParameter
  | deviceIntermediate
  | string
  | command
  deriving DecidableEq, Repr

namespace Stage

def isLayout (c : Char) : Bool := c = '\t' || c = '\n' || c = '\x0c' || c = '\r'

/-- Whether a character is kept. Inside an escape or a control sequence layout is carried out at
once; a string holds all of its characters. -/
def keeps : Stage → Char → Bool
  | text, c => isLayout c || (0x20 ≤ c.toNat && c.toNat ≠ 0x7F)
  | escape, c | escapeIntermediate, c | control, c => isLayout c
  | _, _ => false

/-- What a character of the visible part of ASCII leads to. -/
def advance (stage : Stage) (c : Char) : Stage :=
  match stage with
  | text => text
  | escape =>
    if c.toNat < 0x30 then escapeIntermediate
    else if c = '[' then control
    else if c = ']' then command
    else if c = 'P' then deviceOpening
    else if c = 'X' || c = '^' || c = '_' then string
    else text
  | escapeIntermediate => if c.toNat < 0x30 then escapeIntermediate else text
  | control => if c.toNat < 0x40 then control else text
  | deviceOpening =>
    if c.toNat < 0x30 then deviceIntermediate
    else if c.toNat < 0x40 then deviceParameter
    else string
  | deviceParameter =>
    if c.toNat < 0x30 then deviceIntermediate
    else if c.toNat < 0x3C then deviceParameter
    else string
  | deviceIntermediate => if c.toNat < 0x30 then deviceIntermediate else string
  | string => string
  | command => command

/-- Where the next character stands. The two cancelling controls and the escape character act
everywhere; the bell ends a command, and the byte of the string terminator, even inside the
encoding of a character, ends any other string. -/
def next (stage : Stage) (c : Char) : Stage :=
  if c = '\x18' || c = '\x1a' then text
  else if c = '\x1b' then escape
  else if c.toNat < 0x20 then if stage = command && c = '\x07' then text else stage
  else if c.toNat < 0x7F then stage.advance c
  else if stage = string && (String.utf8EncodeChar c).contains 0x9C then text
  else stage

end Stage

/-- What is kept of a text that starts at `stage`. While `shown`, what came last was kept, and a
character is judged as text; the stage to go on with is held until a control character comes, or
given up at a character beyond ASCII. -/
def plainFrom (stage : Stage) (shown : Bool) : List Char → List Char
  | [] => []
  | c :: cs =>
    if (if shown then Stage.text else stage).keeps c then
      c :: plainFrom (if c.toNat < 0x80 then stage else .text) true cs
    else plainFrom (stage.next c) false cs

def plain (text : String) : String := String.ofList (plainFrom .text false text.toList)

def styled (attributes text : String) : String :=
  "\x1b[" ++ attributes ++ "m" ++ text ++ "\x1b[0m"

end Reckoner.Shell
