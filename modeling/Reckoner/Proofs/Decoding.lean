import Reckoner.Proofs.Upcoming
import Reckoner.Source.Stream

/-! Decoding a stream undoes encoding. A character is read from the bytes of a stream exactly if its
encoding comes next (`Stream.next_of_encoded`, `Stream.encoded_of_next`), so what a stream without
failures yields is encoded by the longest part of its bytes, from their start, that is valid
(`Stream.longest_yielded`). How the bytes are cut into deliveries does not matter. -/
namespace Reckoner

namespace Utf8

/-- The last `count` bytes of the encoding of a code point, six bits in each. -/
def tails : Nat → Nat → List UInt8
  | 0, _ => []
  | count + 1, point => UInt8.ofNat (point / 64 ^ count % 64 + 128) :: tails count point

@[simp] theorem length_tails (count point : Nat) : (tails count point).length = count := by
  induction count with
  | zero => rfl
  | succ count ih => rw [tails, List.length_cons, ih]

theorem isTail_iff (byte : UInt8) : isTail byte = true ↔ 128 ≤ byte.toNat ∧ byte.toNat < 192 := by
  simp [isTail, UInt8.le_iff_toNat_le, UInt8.lt_iff_toNat_lt]

theorem codePoint?_tails (count point : Nat) :
    codePoint? (point / 64 ^ count) (tails count point) = some point := by
  induction count with
  | zero => simp [tails, codePoint?]
  | succ count ih =>
    have byte : (UInt8.ofNat (point / 64 ^ count % 64 + 128)).toNat =
        point / 64 ^ count % 64 + 128 := by
      simp
      omega
    have tail : isTail (UInt8.ofNat (point / 64 ^ count % 64 + 128)) = true := by
      rw [isTail_iff, byte]
      omega
    have bits : 64 * (point / 64 ^ (count + 1)) + (point / 64 ^ count % 64 + 128 - 0x80) =
        point / 64 ^ count := by
      rw [Nat.pow_succ, ← Nat.div_div_eq_div_mul]
      omega
    simp only [tails, codePoint?, tail, if_true, byte, bits, ih]

theorem of_codePoint? {bits point : Nat} {tail : List UInt8}
    (h : codePoint? bits tail = some point) :
    bits = point / 64 ^ tail.length ∧ tail = tails tail.length point := by
  induction tail generalizing bits with
  | nil => simpa [codePoint?, tails] using h
  | cons byte rest ih =>
    simp only [codePoint?] at h
    split at h
    · next tail =>
      rw [isTail_iff] at tail
      obtain ⟨above, same⟩ := ih h
      have first : byte = UInt8.ofNat (point / 64 ^ rest.length % 64 + 128) := by
        apply UInt8.toNat.inj
        rw [← above]
        simp
        omega
      refine ⟨?_, ?_⟩
      · rw [List.length_cons, Nat.pow_succ, ← Nat.div_div_eq_div_mul, ← above]
        omega
      · rw [List.length_cons, tails, ← first, ← same]
    · contradiction

/-- Which first bytes begin a character, and what they tell. -/
theorem lead?_eq_some_iff (first : UInt8) (lead : Lead) :
    lead? first = some lead ↔
      (first.toNat < 0x80 ∧ lead = ⟨0, first.toNat, 0⟩) ∨
      (0xC0 ≤ first.toNat ∧ first.toNat < 0xE0 ∧ lead = ⟨1, first.toNat - 0xC0, 0x80⟩) ∨
      (0xE0 ≤ first.toNat ∧ first.toNat < 0xF0 ∧ lead = ⟨2, first.toNat - 0xE0, 0x800⟩) ∨
      (0xF0 ≤ first.toNat ∧ first.toNat < 0xF8 ∧ lead = ⟨3, first.toNat - 0xF0, 0x10000⟩) := by
  simp only [lead?, UInt8.lt_iff_toNat_lt, UInt8.reduceToNat, eq_comm (a := lead)]
  grind

/-- The encoding of a character is a first byte that tells how many bytes follow, and these. -/
theorem encodeChar_eq (c : Char) : ∃ first lead, lead? first = some lead ∧
    lead.bits = c.toNat / 64 ^ lead.following ∧ lead.least ≤ c.toNat ∧
    String.utf8EncodeChar c = first :: tails lead.following c.toNat := by
  have valid : c.toNat.isValidChar := c.valid
  have point : c.val.toNat = c.toNat := rfl
  simp only [Nat.isValidChar] at valid
  simp only [lead?_eq_some_iff, String.utf8EncodeChar, point]
  split
  · refine ⟨UInt8.ofNat c.toNat, ⟨0, c.toNat, 0⟩, .inl ?_, by simp [tails]⟩
    simp
    omega
  split
  · refine ⟨UInt8.ofNat (c.toNat / 64 % 32 + 192), ⟨1, c.toNat / 64, 0x80⟩, .inr (.inl ?_), ?_⟩ <;>
      simp [tails] <;> omega
  split
  · refine ⟨UInt8.ofNat (c.toNat / 4096 % 16 + 224), ⟨2, c.toNat / 4096, 0x800⟩,
      .inr (.inr (.inl ?_)), ?_⟩ <;> simp [tails] <;> omega
  · refine ⟨UInt8.ofNat (c.toNat / 262144 % 8 + 240), ⟨3, c.toNat / 262144, 0x10000⟩,
      .inr (.inr (.inr ?_)), ?_⟩ <;> simp [tails] <;> omega

/-- A code point has only one first byte that tells enough and not too much. -/
theorem lead_unique {first other : UInt8} {lead second : Lead} {point : Nat}
    (leads : lead? first = some lead) (bits : lead.bits = point / 64 ^ lead.following)
    (least : lead.least ≤ point) (leads' : lead? other = some second)
    (bits' : second.bits = point / 64 ^ second.following) (least' : second.least ≤ point) :
    first = other ∧ lead = second := by
  rw [lead?_eq_some_iff] at leads leads'
  rw [← UInt8.toNat_inj]
  rcases leads with ⟨_, rfl⟩ | ⟨_, _, rfl⟩ | ⟨_, _, rfl⟩ | ⟨_, _, rfl⟩ <;>
  rcases leads' with ⟨_, rfl⟩ | ⟨_, _, rfl⟩ | ⟨_, _, rfl⟩ | ⟨_, _, rfl⟩ <;>
  simp at * <;> omega

/-- The bytes of a character are those that encode it, and no others. -/
theorem char?_eq_some_iff {first : UInt8} {lead : Lead} {tail : List UInt8}
    (leads : lead? first = some lead) (length : tail.length = lead.following) (c : Char) :
    char? lead tail = some c ↔ String.utf8EncodeChar c = first :: tail := by
  obtain ⟨other, second, leads', bits', least', encoded⟩ := encodeChar_eq c
  rw [encoded]
  constructor
  · intro decoded
    unfold char? at decoded
    split at decoded
    · next point read =>
      obtain ⟨⟨least, valid⟩, same⟩ := Option.ite_none_right_eq_some.mp decoded
      have value : c.toNat = point := by
        rw [← Option.some.inj same, Char.ofNat, dif_pos valid]
        rfl
      obtain ⟨bits, tailed⟩ := of_codePoint? read
      rw [length, ← value] at bits tailed
      rw [← value] at least
      obtain ⟨rfl, rfl⟩ := lead_unique leads bits least leads' bits' least'
      rw [tailed]
    · contradiction
  · intro same
    obtain ⟨rfl, rfl⟩ := List.cons.inj same
    obtain rfl := Option.some.inj (leads.symm.trans leads')
    have valid : c.toNat.isValidChar := c.valid
    rw [char?, bits', codePoint?_tails]
    simp [least', valid]

/-- What is read from bytes, and the bytes that are left after it. -/
inductive Reads : List UInt8 → Reading → List UInt8 → Prop where
  | ended : Reads [] .ended []
  | astray {first : UInt8} {rest : List UInt8} (leads : lead? first = none) :
      Reads (first :: rest) (.failed .malformed) rest
  | short {first : UInt8} {rest : List UInt8} {lead : Lead} (leads : lead? first = some lead)
      (short : rest.length < lead.following) : Reads (first :: rest) (.failed .truncated) []
  | broken {first : UInt8} {tail rest : List UInt8} {lead : Lead} (leads : lead? first = some lead)
      (length : tail.length = lead.following) (decoded : char? lead tail = none) :
      Reads (first :: tail ++ rest) (.failed .malformed) rest
  | char {first : UInt8} {tail rest : List UInt8} {lead : Lead} {c : Char}
      (leads : lead? first = some lead) (length : tail.length = lead.following)
      (decoded : char? lead tail = some c) : Reads (first :: tail ++ rest) (.char c) rest

/-- A text whose encoding is the longest part of some bytes, from their start, that is valid. -/
structure Longest (bytes : List UInt8) (text : String) : Prop where
  starts : text.toUTF8.data.toList <+: bytes
  longest : ∀ valid : List UInt8, valid <+: bytes → valid.toByteArray.IsValidUTF8 →
    valid <+: text.toUTF8.data.toList

theorem encode_eq (text : String) :
    text.toUTF8.data.toList = text.toList.flatMap String.utf8EncodeChar := by
  rw [String.toUTF8_eq_toByteArray, ← String.utf8Encode_toList, List.utf8Encode,
    List.toList_data_toByteArray]

theorem isValidUTF8_iff (bytes : List UInt8) :
    bytes.toByteArray.IsValidUTF8 ↔ ∃ cs : List Char, bytes = cs.flatMap String.utf8EncodeChar := by
  constructor
  · rintro ⟨cs, same⟩
    refine ⟨cs, ?_⟩
    rw [← List.toList_data_toByteArray (l := bytes), same, List.utf8Encode,
      List.toList_data_toByteArray]
  · rintro ⟨cs, rfl⟩
    exact ⟨cs, rfl⟩

theorem Longest.unique {bytes : List UInt8} {first second : String} (h : Longest bytes first)
    (h' : Longest bytes second) : first = second := by
  have valid (text : String) : text.toUTF8.data.toList.toByteArray.IsValidUTF8 :=
    (isValidUTF8_iff _).mpr ⟨text.toList, encode_eq text⟩
  have forward := h'.longest _ h.starts (valid first)
  have backward := h.longest _ h'.starts (valid second)
  have same := forward.eq_of_length_le backward.length_le
  rw [← String.toByteArray_inj]
  exact ByteArray.ext (Array.toList_inj.mp same)

end Utf8

/-- Deliveries in any number of chunks, with interruptions but neither an end nor a failure among
them, and all the bytes they bring. -/
inductive Brings : List Delivery → List UInt8 → Prop where
  | nothing : Brings [] []
  | chunk {ds : List Delivery} {held : List UInt8} (bytes : List UInt8) (rest : Brings ds held) :
      Brings (.bytes bytes :: ds) (bytes ++ held)
  | interrupted {ds : List Delivery} {held : List UInt8} (rest : Brings ds held) :
      Brings (.interruption :: ds) held

namespace Stream

theorem brings_ofBytes (held : List UInt8) : Brings (ofBytes held).deliveries held := by
  have whole := Brings.chunk held .nothing
  rwa [List.append_nil] at whole

theorem byteOf_of_nil {ds : List Delivery} (brings : Brings ds []) : byteOf ds = (.ok none, []) := by
  generalize none : [] = held at brings
  induction brings with
  | nothing => rfl
  | chunk bytes rest ih =>
    obtain ⟨rfl, rfl⟩ := List.append_eq_nil_iff.mp none.symm
    exact ih rfl
  | interrupted rest ih => exact ih none

theorem byteOf_of_cons {ds : List Delivery} {first : UInt8} {held : List UInt8}
    (brings : Brings ds (first :: held)) :
    ∃ rest, byteOf ds = (.ok (some first), rest) ∧ Brings rest held := by
  generalize whole : first :: held = bytes at brings
  induction brings with
  | nothing => contradiction
  | @chunk ds later bytes rest ih =>
    cases bytes with
    | nil => exact ih whole
    | cons byte bytes =>
      obtain ⟨rfl, rfl⟩ := List.cons.inj whole
      exact ⟨_, rfl, .chunk bytes rest⟩
  | interrupted rest ih => exact ih whole

variable {s : Stream} {held : List UInt8}

theorem byte_of_nil (brings : Brings s.deliveries []) : s.byte = (.ok none, ⟨[]⟩) := by
  simp [byte, byteOf_of_nil brings]

theorem byte_of_cons {first : UInt8} (brings : Brings s.deliveries (first :: held)) :
    ∃ t : Stream, s.byte = (.ok (some first), t) ∧ Brings t.deliveries held := by
  obtain ⟨rest, read, later⟩ := byteOf_of_cons brings
  exact ⟨⟨rest⟩, by simp [byte, read], later⟩

theorem bytes_of_append {taken : List UInt8} (brings : Brings s.deliveries (taken ++ held)) :
    ∃ t : Stream, s.bytes taken.length = (.ok taken, t) ∧ Brings t.deliveries held := by
  induction taken generalizing s with
  | nil => exact ⟨s, rfl, brings⟩
  | cons first taken ih =>
    obtain ⟨t, read, later⟩ := byte_of_cons brings
    obtain ⟨u, more, last⟩ := ih later
    exact ⟨u, by simp [bytes, read, more], last⟩

theorem bytes_of_short {count : Nat} (brings : Brings s.deliveries held)
    (short : held.length < count) : s.bytes count = (.error .truncated, ⟨[]⟩) := by
  induction held generalizing s count with
  | nil =>
    obtain ⟨count, rfl⟩ := Nat.exists_eq_succ_of_ne_zero (Nat.ne_zero_of_lt short)
    simp [bytes, byte_of_nil brings]
  | cons first held ih =>
    obtain ⟨count, rfl⟩ := Nat.exists_eq_succ_of_ne_zero (Nat.ne_zero_of_lt short)
    obtain ⟨t, read, later⟩ := byte_of_cons brings
    simp [bytes, read, ih later (Nat.lt_of_succ_lt_succ short)]

theorem next_of_encoded {c : Char}
    (brings : Brings s.deliveries (String.utf8EncodeChar c ++ held)) :
    ∃ t : Stream, s.next = (.char c, t) ∧ Brings t.deliveries held := by
  obtain ⟨first, lead, leads, bits, least, encoded⟩ := Utf8.encodeChar_eq c
  rw [encoded] at brings
  obtain ⟨t, read, later⟩ := byte_of_cons brings
  obtain ⟨u, taken, last⟩ := bytes_of_append later
  have length := Utf8.length_tails lead.following c.toNat
  have decoded := (Utf8.char?_eq_some_iff leads length c).mpr encoded
  rw [length] at taken
  exact ⟨u, by simp [next, read, leads, taken, decoded], last⟩

/-- One character, or why there is none. A character is taken whole before it is decoded. -/
theorem reads_next (brings : Brings s.deliveries held) :
    ∃ left, Utf8.Reads held s.next.1 left ∧ Brings s.next.2.deliveries left := by
  cases held with
  | nil =>
    simp only [next, byte_of_nil brings]
    exact ⟨[], .ended, .nothing⟩
  | cons first held =>
    obtain ⟨t, read, later⟩ := byte_of_cons brings
    cases leads : Utf8.lead? first with
    | none =>
      simp only [next, read, leads]
      exact ⟨held, .astray leads, later⟩
    | some lead =>
      by_cases short : held.length < lead.following
      · simp only [next, read, leads, bytes_of_short later short]
        exact ⟨[], .short leads short, .nothing⟩
      · have split := held.take_append_drop lead.following
        have length : (held.take lead.following).length = lead.following := by
          rw [List.length_take]
          omega
        rw [← split] at later ⊢
        obtain ⟨u, taken, last⟩ := bytes_of_append later
        rw [length] at taken
        cases decoded : Utf8.char? lead (held.take lead.following) with
        | none =>
          simp only [next, read, leads, taken, decoded]
          exact ⟨_, .broken leads length decoded, last⟩
        | some c =>
          simp only [next, read, leads, taken, decoded]
          exact ⟨_, .char leads length decoded, last⟩

theorem encoded_of_next {c : Char} {t : Stream} (brings : Brings s.deliveries held)
    (h : s.next = (.char c, t)) :
    ∃ rest, held = String.utf8EncodeChar c ++ rest ∧ Brings t.deliveries rest := by
  obtain ⟨left, reads, later⟩ := reads_next brings
  rw [h] at reads later
  cases reads with
  | char leads length decoded =>
    rw [Utf8.char?_eq_some_iff leads length] at decoded
    exact ⟨left, by rw [decoded], later⟩

theorem flatMap_yielded (brings : Brings s.deliveries held) :
    (Source.yielded s).flatMap String.utf8EncodeChar <+: held := by
  have ends : Source.Ends s := inferInstance
  induction s, ends using Source.Ends.induction generalizing held with
  | now s ends spent =>
    rw [Source.yielded_of_no_char spent]
    exact List.nil_prefix
  | later s rest c ends read ih =>
    obtain ⟨later, rfl, last⟩ := encoded_of_next brings read
    rw [Source.yielded_of_char read, List.flatMap_cons]
    exact (List.prefix_append_right_inj _).mpr (ih last)

theorem isPrefix_yielded {cs : List Char} (brings : Brings s.deliveries held)
    (h : cs.flatMap String.utf8EncodeChar <+: held) : cs <+: Source.yielded s := by
  induction cs generalizing s held with
  | nil => exact List.nil_prefix
  | cons c cs ih =>
    obtain ⟨rest, rfl⟩ := h
    rw [List.flatMap_cons, List.append_assoc] at brings
    obtain ⟨t, read, later⟩ := next_of_encoded brings
    rw [Source.yielded_of_char read, List.cons_prefix_cons]
    exact ⟨rfl, ih later (List.prefix_append _ _)⟩

/-- A stream yields the longest valid part of the bytes that it is brought. -/
theorem longest_yielded (brings : Brings s.deliveries held) :
    Utf8.Longest held (String.ofList (Source.yielded s)) := by
  constructor
  · rw [Utf8.encode_eq, String.toList_ofList]
    exact flatMap_yielded brings
  · intro valid starts encoded
    obtain ⟨cs, rfl⟩ := (Utf8.isValidUTF8_iff valid).mp encoded
    obtain ⟨more, same⟩ := isPrefix_yielded brings starts
    rw [Utf8.encode_eq, String.toList_ofList, ← same, List.flatMap_append]
    exact List.prefix_append _ _

theorem yielded_of_longest {text : String} (brings : Brings s.deliveries held)
    (h : Utf8.Longest held text) : Source.yielded s = text.toList := by
  rw [h.unique (longest_yielded brings), String.toList_ofList]

end Stream

end Reckoner
