import Mathlib.Data.List.TakeWhile
import Reckoner.Proofs.Upcoming

/-! Texts as sequences of tokens, each with the place where it stands. `lexemes` splits a text once
and for all, each token as long as it can be; blanks end a token and are otherwise not seen. The
spans are proper and come one after the other (`ordered_lexemes`), and a settled scanner meets the
lexemes one by one. -/
namespace Reckoner

inductive Token where
  | word (name : List Char)
  | literal (digits : List Char)
  | mark (c : Char)
  deriving DecidableEq, Repr

structure Lexeme where
  token : Token
  span : Span
  deriving DecidableEq, Repr

namespace Text

/-- The tokens of a text whose first character is at position `p`, the longest token first. A
character that starts neither a word nor a literal is a token by itself. -/
def lexemes (p : Nat) : List Char → List Lexeme
  | [] => []
  | c :: cs =>
    if isBlank c then lexemes (p + 1) cs
    else if isLetter c then
      let name := c :: cs.takeWhile isLetterOrNumeric
      ⟨.word name, ⟨p, p + name.length⟩⟩ ::
        lexemes (p + name.length) (cs.dropWhile isLetterOrNumeric)
    else if c.isDigit then
      let digits := c :: cs.takeWhile Char.isDigit
      ⟨.literal digits, ⟨p, p + digits.length⟩⟩ ::
        lexemes (p + digits.length) (cs.dropWhile Char.isDigit)
    else ⟨.mark c, ⟨p, p + 1⟩⟩ :: lexemes (p + 1) cs
termination_by cs => cs.length
decreasing_by
  all_goals simp only [List.length_cons]
  · omega
  · exact Nat.lt_succ_of_le (List.length_dropWhile_le _ _)
  · exact Nat.lt_succ_of_le (List.length_dropWhile_le _ _)
  · omega

@[simp] theorem lexemes_nil (p : Nat) : lexemes p [] = [] := by rw [lexemes]

section Equations

variable {c : Char} (p : Nat) (cs : List Char)

theorem lexemes_blank (blank : isBlank c = true) : lexemes p (c :: cs) = lexemes (p + 1) cs := by
  rw [lexemes, if_pos blank]

theorem lexemes_word (visible : isBlank c = false) (letter : isLetter c = true) :
    lexemes p (c :: cs) =
      ⟨.word (c :: cs.takeWhile isLetterOrNumeric),
        ⟨p, p + (c :: cs.takeWhile isLetterOrNumeric).length⟩⟩ ::
      lexemes (p + (c :: cs.takeWhile isLetterOrNumeric).length)
        (cs.dropWhile isLetterOrNumeric) := by
  rw [lexemes]
  simp [visible, letter]

theorem lexemes_literal (visible : isBlank c = false) (other : isLetter c = false)
    (digit : c.isDigit = true) :
    lexemes p (c :: cs) =
      ⟨.literal (c :: cs.takeWhile Char.isDigit),
        ⟨p, p + (c :: cs.takeWhile Char.isDigit).length⟩⟩ ::
      lexemes (p + (c :: cs.takeWhile Char.isDigit).length) (cs.dropWhile Char.isDigit) := by
  rw [lexemes]
  simp [visible, other, digit]

theorem lexemes_mark (visible : isBlank c = false) (other : isLetter c = false)
    (plain : c.isDigit = false) :
    lexemes p (c :: cs) = ⟨.mark c, ⟨p, p + 1⟩⟩ :: lexemes (p + 1) cs := by
  rw [lexemes]
  simp [visible, other, plain]

theorem lexemes_dropWhile_blank :
    lexemes (p + (cs.takeWhile isBlank).length) (cs.dropWhile isBlank) = lexemes p cs := by
  induction cs generalizing p with
  | nil => simp
  | cons c cs ih =>
    by_cases blank : isBlank c = true
    · rw [lexemes_blank p cs blank, ← ih (p + 1), List.takeWhile_cons_of_pos blank,
        List.dropWhile_cons_of_pos blank, List.length_cons, Nat.add_right_comm, Nat.add_assoc]
    · simp [blank]

end Equations

/-- Lexemes in the order of their places, from a position on. -/
structure Ordered (p : Nat) (lexemes : List Lexeme) : Prop where
  proper : ∀ x ∈ lexemes, p ≤ x.span.start ∧ x.span.start < x.span.stop
  apart : lexemes.Pairwise fun x y => x.span.stop ≤ y.span.start

theorem Ordered.mono {p q : Nat} {xs : List Lexeme} (h : Ordered q xs) (le : p ≤ q) :
    Ordered p xs := by
  refine ⟨fun x member => ?_, h.apart⟩
  have := h.proper x member
  omega

theorem Ordered.cons {p : Nat} {x : Lexeme} {xs : List Lexeme} (starts : p ≤ x.span.start)
    (proper : x.span.start < x.span.stop) (rest : Ordered x.span.stop xs) : Ordered p (x :: xs) := by
  constructor
  · intro y member
    rcases List.mem_cons.mp member with rfl | member
    · exact ⟨starts, proper⟩
    · have := rest.proper y member
      omega
  · apply List.pairwise_cons.mpr
    exact ⟨fun y member => (rest.proper y member).1, rest.apart⟩

theorem ordered_lexemes (p : Nat) (cs : List Char) : Ordered p (lexemes p cs) := by
  fun_induction lexemes p cs with
  | case1 => exact ⟨by simp, .nil⟩
  | case2 p c cs blank ih => exact ih.mono (Nat.le_succ p)
  | case3 p c cs visible letter name ih => exact .cons (Nat.le_refl p) (by simp [name]) ih
  | case4 p c cs visible other digit digits ih => exact .cons (Nat.le_refl p) (by simp [digits]) ih
  | case5 p c cs visible other plain ih => exact .cons (Nat.le_refl p) (Nat.lt_succ_self p) ih

def digits : Ranges := [(0x30, 0x39)]

theorem holds_digits {c : Char} (digit : c.isDigit = true) : digits.holds c.toNat = true := by
  have bounds : 48 ≤ c.toNat ∧ c.toNat ≤ 57 := Char.isDigit_iff_toNat.mp digit
  simp [digits, Ranges.holds, bounds.1, bounds.2]

theorem isBlank_of_isLetter {c : Char} (letter : isLetter c = true) : isBlank c = false :=
  Ranges.holds_of_apart (show Ranges.Apart letters blanks by decide +kernel) letter

theorem isBlank_of_isDigit {c : Char} (digit : c.isDigit = true) : isBlank c = false :=
  Ranges.holds_of_apart (show Ranges.Apart digits blanks by decide) (holds_digits digit)

theorem isLetter_of_isDigit {c : Char} (digit : c.isDigit = true) : isLetter c = false :=
  Ranges.holds_of_apart (show Ranges.Apart digits letters by decide +kernel) (holds_digits digit)

theorem isBlank_of_isLetterOrNumeric {c : Char} (h : isLetterOrNumeric c = true) :
    isBlank c = false := by
  rcases (Bool.or_eq_true _ _).mp h with letter | numeric
  · exact isBlank_of_isLetter letter
  · exact Ranges.holds_of_apart (show Ranges.Apart numerics blanks by decide +kernel) numeric

end Text

namespace Scanner

open Text

variable {σ : Type} [Source σ] {s : Scanner σ} {c : Char}

theorem position_takeWhile (accept : Char → Bool) (s : Scanner σ) :
    (s.takeWhile accept).2.position =
      s.position + (s.upcoming.takeWhile accept).length := by
  have extent := s.extent_takeWhile accept
  have split := congrArg List.length (s.upcoming.takeWhile_append_dropWhile (p := accept))
  simp only [Scanner.extent, upcoming_takeWhile] at extent
  rw [List.length_append] at split
  omega

theorem position_skipBlanks (s : Scanner σ) :
    s.skipBlanks.position = s.position + (s.upcoming.takeWhile isBlank).length :=
  position_takeWhile ..

/-- Blanks do not move the last end. -/
theorem lastEnd_skipBlanks (s : Scanner σ) : s.skipBlanks.lastEnd = s.lastEnd := by
  have loop (taken : List Char) : (s.takeFrom isBlank taken).2.lastEnd = s.lastEnd := by
    fun_induction takeFrom isBlank taken s with
    | case1 taken s c present blank ih =>
      rw [ih]
      simp [lastEnd_advance present, blank]
    | case2 | case3 => rfl
  exact loop []

/-- After a character that is not blank the last end is where the scanner stands. -/
theorem lastEnd_advance_of_visible (present : s.lookahead = some c) (visible : isBlank c = false) :
    s.advance.lastEnd = s.advance.position := by
  simp [lastEnd_advance present, position_advance present, visible]

theorem lastEnd_takeFrom {accept : Char → Bool}
    (visible : ∀ c, accept c = true → isBlank c = false) (taken : List Char)
    (flush : s.lastEnd = s.position) :
    (s.takeFrom accept taken).2.lastEnd = (s.takeFrom accept taken).2.position := by
  fun_induction takeFrom accept taken s with
  | case1 taken s c present accepted ih =>
    exact ih (lastEnd_advance_of_visible present (visible c accepted))
  | case2 | case3 => exact flush

theorem lastEnd_identifier (present : s.lookahead = some c) (letter : isLetter c = true) :
    s.identifier.2.lastEnd = s.position + s.identifier.1.toList.length := by
  have flush : (s.advance.takeWhile isLetterOrNumeric).2.lastEnd =
      (s.advance.takeWhile isLetterOrNumeric).2.position :=
    lastEnd_takeFrom (fun _ => isBlank_of_isLetterOrNumeric) []
      (lastEnd_advance_of_visible present (isBlank_of_isLetter letter))
  have ended : s.identifier.2.lastEnd = (s.advance.takeWhile isLetterOrNumeric).2.lastEnd :=
    lastEnd_skipBlanks _
  rw [ended, flush, position_takeWhile, position_advance present, upcoming_advance, identifier_fst,
    String.toList_ofList, List.length_cons]
  omega

theorem lastEnd_integer (present : s.lookahead = some c) (digit : c.isDigit = true) :
    s.integer.2.lastEnd = s.position + (s.upcoming.takeWhile Char.isDigit).length := by
  have flush : (s.takeWhile Char.isDigit).2.lastEnd = (s.takeWhile Char.isDigit).2.position := by
    rw [takeWhile, takeFrom_of_some present, if_pos digit]
    exact lastEnd_takeFrom (fun _ => isBlank_of_isDigit) [c]
      (lastEnd_advance_of_visible present (isBlank_of_isDigit digit))
  have ended : s.integer.2.lastEnd = (s.takeWhile Char.isDigit).2.lastEnd := by
    rw [integer_snd]
    exact lastEnd_skipBlanks _
  rw [ended, flush, position_takeWhile]

def lexemes (s : Scanner σ) : List Lexeme := Text.lexemes s.position s.upcoming

@[simp] theorem lexemes_skipBlanks (s : Scanner σ) : s.skipBlanks.lexemes = s.lexemes := by
  rw [lexemes, upcoming_skipBlanks, position_skipBlanks, lexemes_dropWhile_blank, lexemes]

theorem lexemes_ofSource (source : σ) [Source.Ends source] :
    (ofSource source).lexemes = Text.lexemes 0 (Source.yielded source) := by
  rw [ofSource, lexemes_skipBlanks, lexemes, position_load, upcoming_load]

theorem lexemes_ofText (text : String) :
    (ofText text).lexemes = Text.lexemes 0 text.toList := by
  rw [ofText, lexemes_ofSource, Source.yielded_text]

theorem lexemes_of_none (absent : s.lookahead = none) : s.lexemes = [] := by
  rw [lexemes, upcoming_eq_nil.mpr absent, lexemes_nil]

theorem lexemes_of_letter (settled : s.Settled) (present : s.lookahead = some c)
    (letter : isLetter c = true) :
    s.lexemes = ⟨.word s.identifier.1.toList, ⟨s.position, s.identifier.2.lastEnd⟩⟩ ::
      s.identifier.2.lexemes := by
  have later : s.identifier.2.lexemes = (s.advance.takeWhile isLetterOrNumeric).2.lexemes :=
    lexemes_skipBlanks _
  rw [later, lexemes, lexemes, lastEnd_identifier present letter, identifier_fst, present,
    position_takeWhile, position_advance present, upcoming_takeWhile, upcoming_advance,
    upcoming_of_some present, lexemes_word _ _ (settled c present) letter]
  simp [Nat.add_assoc, Nat.add_comm]

theorem lexemes_of_digit (settled : s.Settled) (present : s.lookahead = some c)
    (other : isLetter c = false) (digit : c.isDigit = true) :
    s.lexemes = ⟨.literal (s.upcoming.takeWhile Char.isDigit), ⟨s.position, s.integer.2.lastEnd⟩⟩ ::
      s.integer.2.lexemes := by
  have later : s.integer.2.lexemes = (s.takeWhile Char.isDigit).2.lexemes := by
    rw [integer_snd]
    exact lexemes_skipBlanks _
  rw [later, lexemes, lexemes, lastEnd_integer present digit, position_takeWhile,
    upcoming_takeWhile, upcoming_of_some present,
    lexemes_literal _ _ (settled c present) other digit]
  simp [digit]

theorem lexemes_of_mark (settled : s.Settled) (present : s.lookahead = some c)
    (other : isLetter c = false) (plain : c.isDigit = false) :
    s.lexemes = ⟨.mark c, ⟨s.position, s.position + 1⟩⟩ :: s.skip.lexemes := by
  have later : s.skip.lexemes = s.advance.lexemes := lexemes_skipBlanks _
  rw [later, lexemes, lexemes, position_advance present, upcoming_advance,
    upcoming_of_some present, lexemes_mark _ _ (settled c present) other plain, List.tail_cons]

theorem lexemes_of_opening (settled : s.Settled) (present : s.lookahead = some '(') :
    s.lexemes = ⟨.mark '(', ⟨s.position, s.position + 1⟩⟩ :: s.skip.lexemes :=
  lexemes_of_mark settled present (by decide) (by decide)

theorem lexemes_of_operator {op : Operator} (settled : s.Settled) (found : s.operator? = some op) :
    s.lexemes = ⟨.mark op.symbol, ⟨s.position, s.position + 1⟩⟩ :: s.skip.lexemes := by
  refine lexemes_of_mark settled (lookahead_of_operator? found) ?_ ?_
  all_goals cases op <;> decide

/-- Where there is a lookahead a settled scanner stands where a lexeme starts. -/
theorem exists_lexeme (settled : s.Settled) (present : s.lookahead = some c) :
    ∃ x later, s.lexemes = x :: later ∧ x.span.start = s.position := by
  by_cases letter : isLetter c = true
  · exact ⟨_, _, lexemes_of_letter settled present letter, rfl⟩
  have other : isLetter c = false := by simpa using letter
  by_cases digit : c.isDigit = true
  · exact ⟨_, _, lexemes_of_digit settled present other digit, rfl⟩
  have plain : c.isDigit = false := by simpa using digit
  exact ⟨_, _, lexemes_of_mark settled present other plain, rfl⟩

end Scanner

end Reckoner
