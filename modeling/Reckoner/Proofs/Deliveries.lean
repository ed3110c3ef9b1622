import Reckoner.Source.Stream

/-! How bytes are cut into deliveries, and where deliveries are interrupted, does not show. A stream
answers requests for single bytes one after another (`Stream.replies`), and all that it reads goes
through these. Interruptions and the borders of chunks leave no trace in them, ends and failures do,
and so deliveries that are merged into the same ones are read alike for ever
(`Stream.readings_of_merged_eq`). -/
namespace Reckoner

namespace Delivery

/-- Puts a delivery before others. Interruptions and empty chunks vanish, and a chunk is joined with
one right after it. -/
def onto : Delivery → List Delivery → List Delivery
  | .interruption, rest => rest
  | .bytes [], rest => rest
  | .bytes chunk, .bytes more :: rest => .bytes (chunk ++ more) :: rest
  | delivery, rest => delivery :: rest

/-- The deliveries without interruptions and in as few chunks as possible. -/
def merged (deliveries : List Delivery) : List Delivery := deliveries.foldr onto []

def replies : Delivery → List Stream.ByteReading
  | .bytes chunk => chunk.map fun byte => .ok (some byte)
  | .nothing => [.ok none]
  | .interruption => []
  | .failure kind reason => [.error (.device kind reason)]

theorem flatMap_replies_onto (delivery : Delivery) (rest : List Delivery) :
    (delivery.onto rest).flatMap replies = delivery.replies ++ rest.flatMap replies := by
  fun_cases onto delivery rest with
  | case1 | case2 | case4 => rfl
  | case3 chunk more rest => simp [replies]

theorem flatMap_replies_merged (deliveries : List Delivery) :
    (merged deliveries).flatMap replies = deliveries.flatMap replies := by
  induction deliveries with
  | nil => rfl
  | cons delivery rest ih =>
    rw [merged, List.foldr_cons, flatMap_replies_onto, List.flatMap_cons]
    exact congrArg _ ih

end Delivery

namespace Stream

def replies (s : Stream) : List ByteReading := s.deliveries.flatMap Delivery.replies

theorem byteOf_eq (deliveries : List Delivery) :
    (byteOf deliveries).1 = (deliveries.flatMap Delivery.replies).headD (.ok none) ∧
      (byteOf deliveries).2.flatMap Delivery.replies =
        (deliveries.flatMap Delivery.replies).tail := by
  fun_induction byteOf deliveries with
  | case1 | case3 | case4 | case6 => exact ⟨rfl, rfl⟩
  | case2 rest ih | case5 rest ih => exact ih

/-- The same answer, from streams that go on with the same replies. -/
def SameOutcome {α : Type} (x y : α × Stream) : Prop :=
  ∃ answer s t, x = (answer, s) ∧ y = (answer, t) ∧ s.replies = t.replies

variable {s t : Stream}

theorem sameOutcome_byte (same : s.replies = t.replies) : SameOutcome s.byte t.byte := by
  obtain ⟨first, left⟩ := byteOf_eq s.deliveries
  obtain ⟨second, right⟩ := byteOf_eq t.deliveries
  unfold replies at same
  rw [same, ← second] at first
  rw [same, ← right] at left
  exact ⟨s.byte.1, s.byte.2, t.byte.2, rfl, Prod.ext first.symm rfl, left⟩

theorem sameOutcome_bytes (same : s.replies = t.replies) (count : Nat) :
    SameOutcome (s.bytes count) (t.bytes count) := by
  induction count generalizing s t with
  | zero => exact ⟨.ok [], s, t, rfl, rfl, same⟩
  | succ count ih =>
    obtain ⟨reply, u, v, left, right, later⟩ := sameOutcome_byte same
    simp only [bytes, left, right]
    rcases reply with reason | _ | b
    · exact ⟨_, u, v, rfl, rfl, later⟩
    · exact ⟨_, u, v, rfl, rfl, later⟩
    · obtain ⟨rest, u, v, left, right, last⟩ := ih later
      simp only [left, right]
      cases rest <;> exact ⟨_, u, v, rfl, rfl, last⟩

/-- One character. What is lost of a broken one is lost on both sides. -/
theorem sameOutcome_next (same : s.replies = t.replies) : SameOutcome s.next t.next := by
  obtain ⟨reply, u, v, left, right, later⟩ := sameOutcome_byte same
  simp only [next, left, right]
  rcases reply with reason | _ | first
  · exact ⟨_, u, v, rfl, rfl, later⟩
  · exact ⟨_, u, v, rfl, rfl, later⟩
  cases leads : Utf8.lead? first with
  | none =>
    simp only [leads]
    exact ⟨_, u, v, rfl, rfl, later⟩
  | some lead =>
    obtain ⟨taken, u, v, left, right, last⟩ := sameOutcome_bytes later lead.following
    simp only [leads, left, right]
    cases taken with
    | error failure => exact ⟨_, u, v, rfl, rfl, last⟩
    | ok tail =>
      cases decoded : Utf8.char? lead tail
      all_goals
        simp only [decoded]
        exact ⟨_, u, v, rfl, rfl, last⟩

theorem readings_of_replies_eq (same : s.replies = t.replies) (count : Nat) :
    Source.readings count s = Source.readings count t := by
  induction count generalizing s t with
  | zero => rfl
  | succ count ih =>
    obtain ⟨reading, u, v, left, right, later⟩ := sameOutcome_next same
    have first : Source.next s = (reading, u) := left
    have second : Source.next t = (reading, v) := right
    rw [Source.readings, Source.readings, first, second, ih later]

/-- Deliveries that differ only in interruptions and in the borders of chunks are read as the same
characters, ends and failures, request by request and without end. -/
theorem readings_of_merged_eq (first second : List Delivery)
    (same : Delivery.merged first = Delivery.merged second) (count : Nat) :
    Source.readings count (⟨first⟩ : Stream) = Source.readings count (⟨second⟩ : Stream) := by
  apply readings_of_replies_eq
  rw [replies, ← Delivery.flatMap_replies_merged, same, Delivery.flatMap_replies_merged, replies]

/-- A character is in pieces on one side, with interruptions between them, and in one piece on the
other. It lacks its last byte on both sides, and reading goes on after it. -/
theorem readings_of_merged_eq_pieces :
    Source.readings 5 (⟨[.bytes [0xE2], .interruption, .bytes [0x82], .nothing, .interruption,
      .bytes [0xC3], .bytes [0xA9], .failure (.named "BrokenPipe") "lost"]⟩ : Stream) =
    Source.readings 5 (⟨[.interruption, .bytes [0xE2, 0x82], .nothing, .bytes [0xC3, 0xA9],
      .failure (.named "BrokenPipe") "lost"]⟩ : Stream) ∧
    Source.readings 5 (⟨[.interruption, .bytes [0xE2, 0x82], .nothing, .bytes [0xC3, 0xA9],
      .failure (.named "BrokenPipe") "lost"]⟩ : Stream) =
      [.failed .truncated, .char 'é', .failed (.device (.named "BrokenPipe") "lost"), .ended, .ended] :=
  ⟨readings_of_merged_eq _ _ (by decide) 5, by decide⟩

end Stream

end Reckoner
