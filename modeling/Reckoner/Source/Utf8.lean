/-! Strict UTF-8, one character at a time.

The first byte of a character tells how many bytes follow it. A character is accepted only in its
shortest form, and only if it is a Unicode scalar value: neither a surrogate nor above
U+10FFFF. -/
namespace Reckoner.Utf8

/-- What the first byte of a character tells: how many bytes follow, the bits it contributes, and
the least code point that needs this many bytes. -/
structure Lead where
  following : Nat
  bits : Nat
  least : Nat
  deriving DecidableEq, Repr

def lead? (byte : UInt8) : Option Lead :=
  if byte < 0x80 then some ⟨0, byte.toNat, 0⟩
  else if byte < 0xC0 then none
  else if byte < 0xE0 then some ⟨1, byte.toNat - 0xC0, 0x80⟩
  else if byte < 0xF0 then some ⟨2, byte.toNat - 0xE0, 0x800⟩
  else if byte < 0xF8 then some ⟨3, byte.toNat - 0xF0, 0x10000⟩
  else none

/-- The bytes that may follow a first byte, each with six bits. -/
def isTail (byte : UInt8) : Bool := 0x80 ≤ byte && byte < 0xC0

def codePoint? : Nat → List UInt8 → Option Nat
  | bits, [] => some bits
  | bits, byte :: rest =>
    if isTail byte then codePoint? (64 * bits + (byte.toNat - 0x80)) rest else none

def char? (lead : Lead) (tail : List UInt8) : Option Char :=
  match codePoint? lead.bits tail with
  | some point => if lead.least ≤ point ∧ point.isValidChar then some (Char.ofNat point) else none
  | none => none

end Reckoner.Utf8
