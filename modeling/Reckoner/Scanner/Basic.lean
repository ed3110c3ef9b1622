import Reckoner.Event
import Reckoner.Text.Blank

/-! The reading head of a parse: a source, one character of lookahead and where it stands.

`advance` takes the lookahead and loads the next character; a failing source counts as ended, and
once there is no lookahead nothing more is asked of the source. `takeWhile` is the only loop:
skipping blanks and reading a token are both a run of characters of one class. Every run ends,
because `remaining` falls with each character taken (`remaining_advance_lt`). The scanner counts
characters exactly and tells 32-bit positions (`place`, `lastPlace`), which stop at the greatest
(`place_advance`, `lastPlace_advance`). -/
namespace Reckoner

structure Scanner (σ : Type) [Source σ] where
  source : σ
  /-- The next character, none once the input is over. -/
  lookahead : Option Char
  /-- The number of characters before the lookahead. -/
  position : Nat
  /-- One past the last character taken that is not blank. -/
  lastEnd : Nat
  /-- The events so far, latest first. -/
  trace : List Event
  /-- A source is asked for more only if it ends. -/
  ends : lookahead ≠ none → Source.Ends source

namespace Scanner

variable {σ : Type} [Source σ]

/-- Asks the source for the character at `position`. -/
def load (source : σ) (ends : Source.Ends source) (position lastEnd : Nat) (trace : List Event) :
    Scanner σ where
  source := (Source.next source).2
  lookahead := (Source.next source).1.char?
  position := position
  lastEnd := lastEnd
  trace := (Source.next source).1.events ++ trace
  ends present := by
    obtain ⟨c, found⟩ := Option.ne_none_iff_exists'.mp present
    exact ends.rest (Prod.ext (Reading.eq_char found) rfl)

def advance (s : Scanner σ) : Scanner σ :=
  match s.lookahead, s.ends with
  | some c, ends =>
    load s.source (ends (Option.some_ne_none c)) (s.position + 1)
      (if Text.isBlank c then s.lastEnd else s.position + 1) s.trace
  | none, _ => s

def place (s : Scanner σ) : Nat := Position.told s.position

def lastPlace (s : Scanner σ) : Nat := Position.told s.lastEnd

def atEnd (s : Scanner σ) : Bool := s.lookahead.isNone

def record (s : Scanner σ) (event : Event) : Scanner σ := { s with trace := event :: s.trace }

/-- A bound on the characters that can still be taken, the lookahead included. -/
def remaining (s : Scanner σ) : Nat :=
  match s.lookahead with
  | some _ => Source.budget s.source + 1
  | none => 0

theorem remaining_load_le (source : σ) (ends : Source.Ends source) (position lastEnd : Nat)
    (trace : List Event) :
    (load source ends position lastEnd trace).remaining ≤ Source.budget source := by
  rcases given : Source.next source with ⟨c | _ | _, rest⟩
  · have fewer := ends.budget_lt given
    simp only [load, remaining, given, Reading.char?]
    exact fewer
  all_goals simp [load, remaining, given, Reading.char?]

theorem advance_of_none {s : Scanner σ} (absent : s.lookahead = none) : s.advance = s := by
  cases s
  cases absent
  rfl

theorem advance_of_some {s : Scanner σ} {c : Char} (present : s.lookahead = some c) :
    s.advance = load s.source (s.ends (by simp [present])) (s.position + 1)
      (if Text.isBlank c then s.lastEnd else s.position + 1) s.trace := by
  cases s
  cases present
  rfl

/-- One step of the position that is told: it goes up by one until it cannot. -/
theorem place_advance {s : Scanner σ} {c : Char} (present : s.lookahead = some c) :
    s.advance.place = Position.after s.place := by
  rw [advance_of_some present]
  exact Position.told_succ s.position

theorem lastPlace_advance {s : Scanner σ} {c : Char} (present : s.lookahead = some c) :
    s.advance.lastPlace = if Text.isBlank c then s.lastPlace else Position.after s.place := by
  rw [advance_of_some present, lastPlace, load]
  by_cases blank : Text.isBlank c = true
  · rw [if_pos blank, if_pos blank, lastPlace]
  · rw [if_neg blank, if_neg blank]
    exact Position.told_succ s.position

theorem remaining_advance_lt (s : Scanner σ) (present : s.lookahead ≠ none) :
    s.advance.remaining < s.remaining := by
  obtain ⟨c, found⟩ := Option.ne_none_iff_exists'.mp present
  have before : s.remaining = Source.budget s.source + 1 := by simp [remaining, found]
  rw [advance_of_some found, before]
  exact Nat.lt_succ_of_le (remaining_load_le ..)

theorem remaining_advance_le (s : Scanner σ) : s.advance.remaining ≤ s.remaining := by
  by_cases absent : s.lookahead = none
  · exact Nat.le_of_eq (congrArg remaining (advance_of_none absent))
  · exact Nat.le_of_lt (remaining_advance_lt s absent)

@[simp] theorem remaining_record (s : Scanner σ) (event : Event) :
    (s.record event).remaining = s.remaining := rfl

set_option linter.unusedVariables false in
/-- Takes characters as long as they satisfy `accept`, after those already `taken`, which stand in
reverse. -/
def takeFrom (accept : Char → Bool) (taken : List Char) (s : Scanner σ) : List Char × Scanner σ :=
  match h : s.lookahead with
  | some c => if accept c then takeFrom accept (c :: taken) s.advance else (taken.reverse, s)
  | none => (taken.reverse, s)
termination_by s.remaining
decreasing_by exact remaining_advance_lt s (by simp [h])

def takeWhile (accept : Char → Bool) (s : Scanner σ) : List Char × Scanner σ :=
  takeFrom accept [] s

theorem remaining_takeFrom_le (accept : Char → Bool) (taken : List Char) (s : Scanner σ) :
    (takeFrom accept taken s).2.remaining ≤ s.remaining := by
  fun_induction takeFrom accept taken s with
  | case1 taken s c h accepted ih => exact Nat.le_trans ih (remaining_advance_le s)
  | case2 | case3 => exact Nat.le_refl _

theorem remaining_takeWhile_le (accept : Char → Bool) (s : Scanner σ) :
    (s.takeWhile accept).2.remaining ≤ s.remaining := remaining_takeFrom_le ..

def skipBlanks (s : Scanner σ) : Scanner σ := (s.takeWhile Text.isBlank).2

theorem remaining_skipBlanks_le (s : Scanner σ) : s.skipBlanks.remaining ≤ s.remaining :=
  remaining_takeWhile_le ..

def skip (s : Scanner σ) : Scanner σ := s.advance.skipBlanks

theorem remaining_skip_lt (s : Scanner σ) (present : s.lookahead ≠ none) :
    s.skip.remaining < s.remaining :=
  Nat.lt_of_le_of_lt (remaining_skipBlanks_le _) (remaining_advance_lt s present)

theorem remaining_skip_le (s : Scanner σ) : s.skip.remaining ≤ s.remaining :=
  Nat.le_trans (remaining_skipBlanks_le _) (remaining_advance_le s)

/-- A scanner at the first character that is not blank. -/
def ofSource (source : σ) [ends : Source.Ends source] : Scanner σ :=
  (load source ends 0 0 []).skipBlanks

def ofText (text : String) : Scanner (List Char) := ofSource text.toList

end Scanner

end Reckoner
