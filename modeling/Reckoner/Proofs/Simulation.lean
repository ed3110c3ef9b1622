import Reckoner.Proofs.Tandem
import Reckoner.Source.Stream

/-! A stream is as good as the text it yields before it first ends or fails. Scanners over any two
sources are alike when the same characters are upcoming at the same place; each operation gives the
same answer on both and leaves them alike, so no course of operations tells them apart. What a
source would give after its first end or failure is never upcoming. -/
namespace Reckoner

variable {σ τ : Type} [Source σ] [Source τ]

namespace Scanner

/-- Two scanners that no caller can tell apart. The traces may differ: a failure is recorded, an
end is not. -/
structure Alike (s : Scanner σ) (t : Scanner τ) : Prop where
  upcoming : s.upcoming = t.upcoming
  position : s.position = t.position
  lastEnd : s.lastEnd = t.lastEnd

def SameOutcome {α : Type} (x : α × Scanner σ) (y : α × Scanner τ) : Prop :=
  x.1 = y.1 ∧ x.2.Alike y.2

theorem alike_load {first : σ} {second : τ} (ends : Source.Ends first) (also : Source.Ends second)
    (same : Source.yielded first = Source.yielded second) (position lastEnd : Nat)
    (left right : List Event) :
    (load first ends position lastEnd left).Alike (load second also position lastEnd right) where
  upcoming := by rw [upcoming_load, upcoming_load, same]
  position := by rw [position_load, position_load]
  lastEnd := by rw [lastEnd_load, lastEnd_load]

namespace Alike

variable {s : Scanner σ} {t : Scanner τ}

theorem lookahead (alike : s.Alike t) : s.lookahead = t.lookahead := by
  rw [← head?_upcoming, alike.upcoming, head?_upcoming]

theorem view (alike : s.Alike t) : s.view = t.view := by
  rw [Scanner.view, Scanner.view, alike.lookahead, alike.position, alike.lastEnd]

theorem record (alike : s.Alike t) (left right : Event) :
    (s.record left).Alike (t.record right) :=
  ⟨alike.upcoming, alike.position, alike.lastEnd⟩

theorem advance (alike : s.Alike t) : s.advance.Alike t.advance := by
  cases present : s.lookahead with
  | none =>
    have absent := alike.lookahead.symm.trans present
    rwa [advance_of_none present, advance_of_none absent]
  | some c =>
    have also := alike.lookahead.symm.trans present
    have same : Source.yielded s.source = Source.yielded t.source := by
      simpa [Scanner.upcoming, present, also] using alike.upcoming
    rw [advance_of_some present, advance_of_some also, alike.position, alike.lastEnd]
    exact alike_load _ _ same ..

theorem takeFrom (alike : s.Alike t) (accept : Char → Bool) (taken : List Char) :
    SameOutcome (s.takeFrom accept taken) (t.takeFrom accept taken) := by
  refine ⟨by rw [takeFrom_fst, takeFrom_fst, alike.upcoming], ?_⟩
  fun_induction Scanner.takeFrom accept taken s generalizing t with
  | case1 taken s c present accepted ih =>
    have also := alike.lookahead.symm.trans present
    rw [takeFrom_of_some also, if_pos accepted]
    exact ih alike.advance
  | case2 taken s c present refused =>
    have also := alike.lookahead.symm.trans present
    rw [takeFrom_of_some also, if_neg refused]
    exact alike
  | case3 taken s absent =>
    have also := alike.lookahead.symm.trans absent
    rw [takeFrom_of_none also]
    exact alike

theorem skipBlanks (alike : s.Alike t) : s.skipBlanks.Alike t.skipBlanks :=
  (alike.takeFrom Text.isBlank []).2

theorem skip (alike : s.Alike t) : s.skip.Alike t.skip := alike.advance.skipBlanks

theorem identifier (alike : s.Alike t) : SameOutcome s.identifier t.identifier := by
  obtain ⟨same, after⟩ := alike.advance.takeFrom Text.isLetterOrNumeric []
  refine ⟨?_, after.skipBlanks.record _ _⟩
  rw [identifier_fst, identifier_fst, alike.lookahead, alike.upcoming]

theorem integer (alike : s.Alike t) :
    s.upcoming.takeWhile Char.isDigit = t.upcoming.takeWhile Char.isDigit ∧
      s.integer.2.Alike t.integer.2 := by
  obtain ⟨_, after⟩ := alike.takeFrom Char.isDigit []
  refine ⟨by rw [alike.upcoming], ?_⟩
  rw [integer_snd, integer_snd]
  exact after.skipBlanks.record _ _

theorem tandem : Tandem (fun _ => True) (Alike : Scanner σ → Scanner τ → Prop) 0 where
  need := fun _ _ => trivial
  lookahead := lookahead
  position := position
  record := record
  skip := fun alike _ => alike.skip
  identifier := fun alike _ => alike.identifier
  integer := fun alike _ => alike.integer

theorem parse (alike : s.Alike t) : SameOutcome (Parser.parse s) (Parser.parse t) := by
  obtain ⟨same, after⟩ := tandem.parse alike trivial
  rw [Answer.shift_zero] at same
  exact ⟨Answer.tree.inj same, after⟩

theorem play (alike : s.Alike t) (operations : List Operation) :
    s.play operations = t.play operations :=
  tandem.play_eq view alike operations trivial

end Alike

end Scanner

/-- A descent goes the same way over any source. -/
theorem Descent.alike {part : Part} {room : Nat} {s rest : Scanner σ}
    {result : Except Diagnostic Expr} (h : Descent part room s result rest) {t : Scanner τ}
    (alike : s.Alike t) : ∃ last : Scanner τ, Descent part room t result last ∧ rest.Alike last := by
  obtain ⟨other, last, descent, same, after⟩ := Scanner.Alike.tandem.descent h trivial alike
  rw [Answer.shift_zero] at same
  obtain rfl := Answer.tree.inj same
  exact ⟨last, descent, after⟩

namespace Scanner

theorem alike_ofSource {first : σ} {second : τ} [Source.Ends first] [Source.Ends second]
    (same : Source.yielded first = Source.yielded second) :
    (ofSource first).Alike (ofSource second) :=
  (alike_load _ _ same 0 0 [] []).skipBlanks

/-- Every stream yields a text before it first ends or fails, and for every course of operations a
scanner of the stream gives the answers and the views that a scanner of that text gives. -/
theorem play_stream (stream : Stream) :
    (∃ text, Source.Yields stream text) ∧
    ∀ text, Source.Yields stream text →
      (ofSource stream).view = (ofText text).view ∧
      ∀ operations, (ofSource stream).play operations = (ofText text).play operations := by
  refine ⟨⟨_, Source.yields_yielded stream⟩, ?_⟩
  intro text yields
  have alike : (ofSource stream).Alike (ofText text) :=
    alike_ofSource (yields.yielded_eq.trans (Source.yielded_text _).symm)
  exact ⟨alike.view, alike.play⟩

/-- The text ends at the first request that delivers nothing, inside a character and with a literal
begun, although digits follow. -/
theorem play_stream_cut :
    ∀ operations, (ofSource (⟨[.bytes [0x31], .interruption, .bytes [0x32, 0xC3], .nothing,
      .bytes [0x33]]⟩ : Stream)).play operations = (ofText "12").play operations := by
  have yields : Source.Yields (⟨[.bytes [0x31], .interruption, .bytes [0x32, 0xC3], .nothing,
      .bytes [0x33]]⟩ : Stream) "12" := ⟨.failed .truncated, by simp, by decide⟩
  exact ((play_stream _).2 "12" yields).2

end Scanner

end Reckoner
