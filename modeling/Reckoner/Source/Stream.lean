import Reckoner.Source.Basic
import Reckoner.Source.Utf8

/-! A stream of bytes as a source of characters.

The stream is the list of what its device delivers, request by request. Chunks of bytes are read
byte by byte, interruptions are passed over, and a request that delivers no byte is an end: an
ordinary one between characters, a truncation inside a character. All bytes of a character are
taken before they are decoded, and what was taken of a broken character is lost. -/
namespace Reckoner

inductive Delivery where
  | bytes (chunk : List UInt8)
  | nothing
  | interruption
  | failure (kind : Failure.Kind) (reason : String)
  deriving DecidableEq, Repr

def Delivery.size : Delivery → Nat
  | .bytes chunk => chunk.length
  | _ => 0

def Delivery.total : List Delivery → Nat
  | [] => 0
  | delivery :: rest => delivery.size + total rest

/-- Past the last delivery a stream delivers nothing for ever. -/
structure Stream where
  deliveries : List Delivery
  deriving DecidableEq, Repr

namespace Stream

def ofBytes (bytes : List UInt8) : Stream := ⟨[.bytes bytes]⟩

/-- The answer to a request for one byte; none at an end. -/
abbrev ByteReading := Except Failure (Option UInt8)

/-- One byte. A used up chunk and an interruption are no answer, so the next delivery is asked. -/
def byteOf : List Delivery → ByteReading × List Delivery
  | [] => (.ok none, [])
  | .bytes [] :: rest => byteOf rest
  | .bytes (byte :: chunk) :: rest => (.ok (some byte), .bytes chunk :: rest)
  | .nothing :: rest => (.ok none, rest)
  | .interruption :: rest => byteOf rest
  | .failure kind reason :: rest => (.error (.device kind reason), rest)

def byte (s : Stream) : ByteReading × Stream :=
  let (reading, rest) := byteOf s.deliveries
  (reading, ⟨rest⟩)

/-- As many bytes as are asked for, or why there are fewer. -/
def bytes : Nat → Stream → Except Failure (List UInt8) × Stream
  | 0, s => (.ok [], s)
  | count + 1, s =>
    match s.byte with
    | (.ok (some b), s) =>
      match bytes count s with
      | (.ok rest, s) => (.ok (b :: rest), s)
      | (.error failure, s) => (.error failure, s)
    | (.ok none, s) => (.error .truncated, s)
    | (.error failure, s) => (.error failure, s)

/-- One character. A byte that starts no character is taken alone. -/
def next (s : Stream) : Reading × Stream :=
  match s.byte with
  | (.ok none, s) => (.ended, s)
  | (.error failure, s) => (.failed failure, s)
  | (.ok (some first), s) =>
    match Utf8.lead? first with
    | none => (.failed .malformed, s)
    | some lead =>
      match s.bytes lead.following with
      | (.error failure, s) => (.failed failure, s)
      | (.ok tail, s) =>
        match Utf8.char? lead tail with
        | some c => (.char c, s)
        | none => (.failed .malformed, s)

def size (s : Stream) : Nat := Delivery.total s.deliveries

theorem total_byteOf_le (ds : List Delivery) :
    Delivery.total (byteOf ds).2 ≤ Delivery.total ds := by
  fun_induction byteOf ds <;> simp_all [Delivery.total, Delivery.size]

theorem total_byteOf_lt {ds rest : List Delivery} {b : UInt8}
    (h : byteOf ds = (.ok (some b), rest)) : Delivery.total rest < Delivery.total ds := by
  fun_induction byteOf ds with
  | case1 | case4 | case6 => simp at h
  | case2 ds ih | case5 ds ih => simpa [Delivery.total, Delivery.size] using ih h
  | case3 byte chunk ds =>
    obtain ⟨_, rfl⟩ := Prod.mk.inj h
    simp [Delivery.total, Delivery.size]

theorem size_byte_le (s : Stream) : s.byte.2.size ≤ s.size := total_byteOf_le s.deliveries

theorem size_byte_lt {s rest : Stream} {b : UInt8} (h : s.byte = (.ok (some b), rest)) :
    rest.size < s.size := by
  obtain ⟨reading, rfl⟩ := Prod.mk.inj h
  exact total_byteOf_lt (Prod.ext reading rfl)

theorem size_bytes_le (count : Nat) (s : Stream) : (s.bytes count).2.size ≤ s.size := by
  induction count generalizing s with
  | zero => exact Nat.le_refl _
  | succ count ih =>
    have first := size_byte_le s
    unfold bytes
    split
    · next b t h =>
      rw [h] at first
      have rest := ih t
      split
      all_goals next h => rw [h] at rest; exact Nat.le_trans rest first
    all_goals next h => rw [h] at first; exact first

theorem size_next_lt {s rest : Stream} {c : Char} (h : s.next = (.char c, rest)) :
    rest.size < s.size := by
  unfold next at h
  split at h
  · simp at h
  · simp at h
  · next b t first =>
    have shorter := size_byte_lt first
    split at h
    · simp at h
    · next lead _ =>
      have tail := size_bytes_le lead.following t
      split at h
      · simp at h
      · next bs u taken =>
        rw [taken] at tail
        split at h
        · obtain ⟨_, rfl⟩ := Prod.mk.inj h
          exact Nat.lt_of_le_of_lt tail shorter
        · simp at h

instance : Source Stream where
  next := next
  budget := size
  budget_lt given _ := size_next_lt given

instance (s : Stream) : Source.Ends s := Source.ends_of_budget_lt size_next_lt s

end Stream

end Reckoner
