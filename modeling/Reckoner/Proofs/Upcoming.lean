import Mathlib.Algebra.Group.Nat.Defs
import Reckoner.Scanner.Token

/-! What a scanner still has to read, whatever its source is. `upcoming` is the lookahead and all
that the source gives before it first ends or fails. Each operation is a function of it: it takes
a stretch from its front, and the position moves by the length of that stretch. -/
namespace Reckoner

namespace Word

theorem ofDigits?_eq_ite (digits : List Char) :
    ofDigits? digits =
      if Nat.ofDigitChars 10 digits 0 ≤ 2 ^ 63 - 1 then
        some (Int64.ofInt (Nat.ofDigitChars 10 digits 0))
      else none := by
  rw [ofDigits?, Decimal.upTo?_eq _ _ _ (Nat.zero_le _)]
  have bound : greatest = 2 ^ 63 - 1 := rfl
  rw [bound]
  split <;> rfl

end Word

namespace Source

variable {σ : Type} [Source σ]

/-- From the first answer that is no character back to the source. -/
@[elab_as_elim] theorem Ends.induction {motive : (source : σ) → Ends source → Prop}
    (now : ∀ (s : σ) (ends : Ends s), (∀ c, (next s).1 ≠ .char c) → motive s ends)
    (later : ∀ (s rest : σ) (c : Char) (ends : Ends s) (given : next s = (.char c, rest)),
      motive rest (ends.rest given) → motive s ends)
    (source : σ) (ends : Ends source) : motive source ends := by
  obtain ⟨count, after⟩ := ends
  induction after with
  | now spent => exact now _ _ spent
  | later given after ih => exact later _ _ _ _ given ih

/-- The characters among so many answers, up to the first answer that is none. -/
def charsWithin : Nat → σ → List Char
  | 0, _ => []
  | count + 1, source =>
    match next source with
    | (.char c, rest) => c :: charsWithin count rest
    | (.ended, _) | (.failed _, _) => []

/-- The characters that a source gives before it first ends or fails. -/
def yielded (source : σ) : List Char := charsWithin (budget source) source

theorem charsWithin_of_char {source rest : σ} {c : Char} (h : next source = (.char c, rest))
    (count : Nat) : charsWithin (count + 1) source = c :: charsWithin count rest := by
  rw [charsWithin, h]

theorem charsWithin_of_no_char {source : σ} (h : ∀ c, (next source).1 ≠ .char c) (count : Nat) :
    charsWithin count source = [] := by
  cases count with
  | zero => rfl
  | succ count =>
    rw [charsWithin]
    split
    · next c rest met => exact absurd (congrArg Prod.fst met) (h c)
    all_goals rfl

theorem charsWithin_of_budget_le (source : σ) (ends : Ends source) {count other : Nat}
    (enough : budget source ≤ count) (also : budget source ≤ other) :
    charsWithin count source = charsWithin other source := by
  induction source, ends using Ends.induction generalizing count other with
  | now s ends spent => rw [charsWithin_of_no_char spent, charsWithin_of_no_char spent]
  | later s rest c ends given ih =>
    have fewer := ends.budget_lt given
    obtain ⟨count, rfl⟩ := Nat.exists_eq_add_of_lt (Nat.lt_of_lt_of_le fewer enough)
    obtain ⟨other, rfl⟩ := Nat.exists_eq_add_of_lt (Nat.lt_of_lt_of_le fewer also)
    rw [charsWithin_of_char given, charsWithin_of_char given]
    exact congrArg _ (ih (Nat.le_add_right _ _) (Nat.le_add_right _ _))

theorem yielded_of_char {source rest : σ} {c : Char} [ends : Ends source]
    (h : next source = (.char c, rest)) : yielded source = c :: yielded rest := by
  obtain ⟨spare, room⟩ := Nat.exists_eq_add_of_lt (ends.budget_lt h)
  rw [yielded, room, charsWithin_of_char h]
  have enough : budget rest ≤ budget rest + spare := Nat.le_add_right ..
  rw [charsWithin_of_budget_le rest (ends.rest h) enough (Nat.le_refl _), yielded]

theorem yielded_of_no_char {source : σ} (h : ∀ c, (next source).1 ≠ .char c) :
    yielded source = [] := charsWithin_of_no_char h _

@[simp] theorem yielded_text (cs : List Char) : yielded cs = cs := by
  induction cs with
  | nil => exact yielded_of_no_char fun c h => by simp [next, nextOfText] at h
  | cons c cs ih =>
    have first : next (c :: cs) = (.char c, cs) := rfl
    rw [yielded_of_char first, ih]

/-- The first answers of a source are the characters of a text, and the answer after them is none. -/
def Yields (source : σ) (text : String) : Prop :=
  ∃ last, (∀ c, last ≠ .char c) ∧
    readings (text.toList.length + 1) source = text.toList.map Reading.char ++ [last]

theorem yields_yielded (source : σ) [ends : Ends source] :
    Yields source (String.ofList (yielded source)) := by
  unfold Yields
  rw [String.toList_ofList]
  induction source, ends using Ends.induction with
  | now s ends spent => exact ⟨(next s).1, spent, by simp [yielded_of_no_char spent, readings]⟩
  | later s rest c ends given ih =>
    obtain ⟨last, stops, answers⟩ := ih
    refine ⟨last, stops, ?_⟩
    rw [yielded_of_char given, List.length_cons, readings, given, List.map_cons, List.cons_append]
    exact congrArg _ answers

theorem endsAfter_of_readings {source : σ} {cs : List Char} {last : Reading}
    (stops : ∀ c, last ≠ .char c)
    (answers : readings (cs.length + 1) source = cs.map Reading.char ++ [last]) :
    EndsAfter next cs.length source := by
  induction cs generalizing source with
  | nil =>
    have first : (next source).1 = last := (List.cons.inj answers).1
    exact .now (first ▸ stops)
  | cons c cs ih =>
    obtain ⟨first, later⟩ := List.cons.inj answers
    exact .later (Prod.ext first rfl) (ih later)

theorem yielded_of_readings {source : σ} {cs : List Char} {last : Reading}
    (stops : ∀ c, last ≠ .char c)
    (answers : readings (cs.length + 1) source = cs.map Reading.char ++ [last]) :
    yielded source = cs := by
  have : Ends source := ⟨_, endsAfter_of_readings stops answers⟩
  induction cs generalizing source with
  | nil =>
    have first : (next source).1 = last := (List.cons.inj answers).1
    exact yielded_of_no_char (first ▸ stops)
  | cons c cs ih =>
    obtain ⟨first, later⟩ := List.cons.inj answers
    have given : next source = (.char c, (next source).2) := Prod.ext first rfl
    rw [yielded_of_char given, ih later (this.rest given)]

theorem Yields.ends {source : σ} {text : String} (h : Yields source text) : Ends source := by
  obtain ⟨last, stops, answers⟩ := h
  exact ⟨_, endsAfter_of_readings stops answers⟩

theorem Yields.yielded_eq {source : σ} {text : String} (h : Yields source text) :
    yielded source = text.toList := by
  obtain ⟨last, stops, answers⟩ := h
  exact yielded_of_readings stops answers

end Source

namespace Scanner

variable {σ : Type} [Source σ]

def upcoming (s : Scanner σ) : List Char :=
  match s.lookahead with
  | some c => c :: Source.yielded s.source
  | none => []

@[simp] theorem head?_upcoming (s : Scanner σ) : s.upcoming.head? = s.lookahead := by
  cases h : s.lookahead <;> simp [upcoming, h]

theorem upcoming_of_some {s : Scanner σ} {c : Char} (present : s.lookahead = some c) :
    s.upcoming = c :: s.upcoming.tail := by
  simp [upcoming, present]

theorem upcoming_eq_nil {s : Scanner σ} : s.upcoming = [] ↔ s.lookahead = none := by
  rw [← head?_upcoming, List.head?_eq_none_iff]

@[simp] theorem upcoming_record (s : Scanner σ) (event : Event) :
    (s.record event).upcoming = s.upcoming := rfl

@[simp] theorem upcoming_load (source : σ) (ends : Source.Ends source) (position lastEnd : Nat)
    (trace : List Event) :
    (load source ends position lastEnd trace).upcoming = Source.yielded source := by
  rcases given : Source.next source with ⟨c | _ | _, rest⟩
  · simp [upcoming, load, given, Reading.char?, Source.yielded_of_char given]
  all_goals
    rw [Source.yielded_of_no_char fun c => by simp [given]]
    simp [upcoming, load, given, Reading.char?]

@[simp] theorem upcoming_advance (s : Scanner σ) : s.advance.upcoming = s.upcoming.tail := by
  cases h : s.lookahead with
  | none => simp [advance_of_none h, upcoming, h]
  | some c =>
    rw [advance_of_some h, upcoming_load]
    simp [upcoming, h]

theorem position_load (source : σ) (ends : Source.Ends source) (position lastEnd : Nat)
    (trace : List Event) : (load source ends position lastEnd trace).position = position := rfl

theorem lastEnd_load (source : σ) (ends : Source.Ends source) (position lastEnd : Nat)
    (trace : List Event) : (load source ends position lastEnd trace).lastEnd = lastEnd := rfl

theorem position_advance {s : Scanner σ} {c : Char} (present : s.lookahead = some c) :
    s.advance.position = s.position + 1 := by
  rw [advance_of_some present, position_load]

theorem lastEnd_advance {s : Scanner σ} {c : Char} (present : s.lookahead = some c) :
    s.advance.lastEnd = if Text.isBlank c then s.lastEnd else s.position + 1 := by
  rw [advance_of_some present, lastEnd_load]

theorem takeFrom_of_some {accept : Char → Bool} {taken : List Char} {s : Scanner σ} {c : Char}
    (present : s.lookahead = some c) :
    takeFrom accept taken s =
      if accept c then takeFrom accept (c :: taken) s.advance else (taken.reverse, s) := by
  rw [takeFrom]
  split
  · next d met =>
    obtain rfl := Option.some.inj (present.symm.trans met)
    rfl
  · next absent => simp [present] at absent

theorem takeFrom_of_none {accept : Char → Bool} {taken : List Char} {s : Scanner σ}
    (absent : s.lookahead = none) : takeFrom accept taken s = (taken.reverse, s) := by
  rw [takeFrom]
  split
  · next met => simp [absent] at met
  · rfl

/-- The length of the whole input: what was taken and what is to come. -/
def extent (s : Scanner σ) : Nat := s.position + s.upcoming.length

@[simp] theorem extent_record (s : Scanner σ) (event : Event) :
    (s.record event).extent = s.extent := rfl

@[simp] theorem extent_advance (s : Scanner σ) : s.advance.extent = s.extent := by
  cases h : s.lookahead with
  | none => rw [advance_of_none h]
  | some c =>
    simp only [extent, upcoming_advance, List.length_tail]
    rw [upcoming_of_some h, position_advance h, List.length_cons]
    omega

theorem takeFrom_fst (accept : Char → Bool) (taken : List Char) (s : Scanner σ) :
    (takeFrom accept taken s).1 = taken.reverse ++ s.upcoming.takeWhile accept := by
  fun_induction takeFrom accept taken s with
  | case1 taken s c h accepted ih =>
    rw [ih, upcoming_advance, upcoming_of_some h]
    simp [accepted]
  | case2 taken s c h refused =>
    rw [upcoming_of_some h]
    simp [refused]
  | case3 taken s h => simp [upcoming, h]

theorem upcoming_takeFrom (accept : Char → Bool) (taken : List Char) (s : Scanner σ) :
    (takeFrom accept taken s).2.upcoming = s.upcoming.dropWhile accept := by
  fun_induction takeFrom accept taken s with
  | case1 taken s c h accepted ih =>
    rw [ih, upcoming_advance, upcoming_of_some h]
    simp [accepted]
  | case2 taken s c h refused =>
    rw [upcoming_of_some h]
    simp [refused]
  | case3 taken s h => simp [upcoming, h]

theorem extent_takeFrom (accept : Char → Bool) (taken : List Char) (s : Scanner σ) :
    (takeFrom accept taken s).2.extent = s.extent := by
  fun_induction takeFrom accept taken s with
  | case1 taken s c h accepted ih => rw [ih, extent_advance]
  | case2 | case3 => rfl

@[simp] theorem takeWhile_fst (accept : Char → Bool) (s : Scanner σ) :
    (s.takeWhile accept).1 = s.upcoming.takeWhile accept := takeFrom_fst accept [] s

@[simp] theorem upcoming_takeWhile (accept : Char → Bool) (s : Scanner σ) :
    (s.takeWhile accept).2.upcoming = s.upcoming.dropWhile accept := upcoming_takeFrom ..

@[simp] theorem extent_takeWhile (accept : Char → Bool) (s : Scanner σ) :
    (s.takeWhile accept).2.extent = s.extent := extent_takeFrom ..

@[simp] theorem upcoming_skipBlanks (s : Scanner σ) :
    s.skipBlanks.upcoming = s.upcoming.dropWhile Text.isBlank := upcoming_takeWhile ..

@[simp] theorem extent_skipBlanks (s : Scanner σ) : s.skipBlanks.extent = s.extent :=
  extent_takeWhile ..

@[simp] theorem upcoming_skip (s : Scanner σ) :
    s.skip.upcoming = s.upcoming.tail.dropWhile Text.isBlank := by
  simp [skip]

@[simp] theorem extent_skip (s : Scanner σ) : s.skip.extent = s.extent := by
  simp [skip]

@[simp] theorem upcoming_ofSource (source : σ) [Source.Ends source] :
    (ofSource source).upcoming = (Source.yielded source).dropWhile Text.isBlank := by
  simp [ofSource]

@[simp] theorem extent_ofSource (source : σ) [Source.Ends source] :
    (ofSource source).extent = (Source.yielded source).length := by
  rw [ofSource, extent_skipBlanks, extent, position_load, upcoming_load, Nat.zero_add]

theorem identifier_fst (s : Scanner σ) :
    s.identifier.1 = String.ofList
      (s.lookahead.getD endMark :: s.upcoming.tail.takeWhile Text.isLetterOrNumeric) := by
  simp [identifier, peek]

@[simp] theorem upcoming_identifier (s : Scanner σ) :
    s.identifier.2.upcoming =
      (s.upcoming.tail.dropWhile Text.isLetterOrNumeric).dropWhile Text.isBlank := by
  simp [identifier]

@[simp] theorem extent_identifier (s : Scanner σ) : s.identifier.2.extent = s.extent := by
  simp [identifier]

theorem integer_fst (s : Scanner σ) :
    s.integer.1 = match Word.ofDigits? (s.upcoming.takeWhile Char.isDigit) with
      | some value => .ok value
      | none => .error
          ⟨.numberTooLarge (String.ofList (s.upcoming.takeWhile Char.isDigit)), s.position⟩ := by
  simp only [integer, takeWhile_fst]
  cases Word.ofDigits? (s.upcoming.takeWhile Char.isDigit) <;> rfl

theorem of_integer_ok {s : Scanner σ} {value : Int64} {rest : Scanner σ}
    (h : s.integer = (.ok value, rest)) :
    Nat.ofDigitChars 10 (s.upcoming.takeWhile Char.isDigit) 0 ≤ 2 ^ 63 - 1 ∧
      value = Int64.ofInt (Nat.ofDigitChars 10 (s.upcoming.takeWhile Char.isDigit) 0) := by
  have read := s.integer_fst
  rw [h, Word.ofDigits?_eq_ite] at read
  split at read
  · next found =>
    obtain ⟨small, same⟩ := Option.ite_none_right_eq_some.mp found
    exact ⟨small, (Except.ok.inj read).trans (Option.some.inj same).symm⟩
  · contradiction

theorem of_integer_error {s : Scanner σ} {diagnostic : Diagnostic} {rest : Scanner σ}
    (h : s.integer = (.error diagnostic, rest)) :
    diagnostic =
      ⟨.numberTooLarge (String.ofList (s.upcoming.takeWhile Char.isDigit)), s.position⟩ := by
  have read := s.integer_fst
  rw [h] at read
  split at read
  · contradiction
  · exact Except.error.inj read

theorem integer_of_fits {s : Scanner σ}
    (fits : Nat.ofDigitChars 10 (s.upcoming.takeWhile Char.isDigit) 0 ≤ 2 ^ 63 - 1) :
    s.integer = (.ok (Int64.ofInt (Nat.ofDigitChars 10 (s.upcoming.takeWhile Char.isDigit) 0)),
      s.integer.2) := by
  refine Prod.ext ?_ rfl
  rw [integer_fst, Word.ofDigits?_eq_ite, if_pos fits]

theorem exceeds_of_integer_error {s : Scanner σ} {diagnostic : Diagnostic} {rest : Scanner σ}
    (h : s.integer = (.error diagnostic, rest)) :
    2 ^ 63 - 1 < Nat.ofDigitChars 10 (s.upcoming.takeWhile Char.isDigit) 0 := by
  apply Nat.lt_of_not_le
  intro fits
  rw [integer_of_fits fits] at h
  simp at h

theorem integer_of_exceeds {s : Scanner σ}
    (exceeds : 2 ^ 63 - 1 < Nat.ofDigitChars 10 (s.upcoming.takeWhile Char.isDigit) 0) :
    s.integer = (.error ⟨.numberTooLarge (String.ofList (s.upcoming.takeWhile Char.isDigit)),
      s.position⟩, s.integer.2) := by
  refine Prod.ext ?_ rfl
  rw [integer_fst, Word.ofDigits?_eq_ite, if_neg (Nat.not_le.mpr exceeds)]

/-- A literal is taken whole, whether or not it fits. -/
theorem integer_snd (s : Scanner σ) :
    s.integer.2 = (s.takeWhile Char.isDigit).2.skipBlanks.record
      (.integerRead (String.ofList (s.upcoming.takeWhile Char.isDigit))) := by
  simp only [integer, takeWhile_fst]
  split <;> rfl

@[simp] theorem upcoming_integer (s : Scanner σ) :
    s.integer.2.upcoming = (s.upcoming.dropWhile Char.isDigit).dropWhile Text.isBlank := by
  simp [integer_snd]

@[simp] theorem extent_integer (s : Scanner σ) : s.integer.2.extent = s.extent := by
  simp [integer_snd]

/-- Between tokens the lookahead is no blank. -/
def Settled (s : Scanner σ) : Prop := ∀ c, s.lookahead = some c → Text.isBlank c = false

theorem settled_skipBlanks (s : Scanner σ) : s.skipBlanks.Settled := by
  intro c present
  have first := List.head?_dropWhile_not Text.isBlank s.upcoming
  rw [← upcoming_skipBlanks, head?_upcoming, present] at first
  simpa using first

theorem settled_skip (s : Scanner σ) : s.skip.Settled := settled_skipBlanks _

theorem settled_ofSource (source : σ) [Source.Ends source] : (ofSource source).Settled :=
  settled_skipBlanks _

theorem settled_identifier (s : Scanner σ) : s.identifier.2.Settled := settled_skipBlanks _

theorem settled_integer (s : Scanner σ) : s.integer.2.Settled := by
  rw [integer_snd]
  exact settled_skipBlanks _

end Scanner

end Reckoner
