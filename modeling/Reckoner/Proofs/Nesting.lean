import Reckoner.Proofs.Descent
import Reckoner.Proofs.Tokens

/-! Parentheses in the text that a parse takes. A descent with room for so many more of them never
opens one too many; where it ends well all that it opened are closed, and where it is refused as
too deep it stands at the parenthesis that would have been one too many (`Descent.takes_tooDeep`). -/
namespace Reckoner

namespace Text

def openNext (n : Nat) (c : Char) : Nat :=
  if c = '(' then n + 1 else if c = ')' then n - 1 else n

/-- How many parentheses are open after a text, if `n` are open before it. -/
def openAfter : Nat → List Char → Nat
  | n, [] => n
  | n, c :: cs => openAfter (openNext n c) cs

def unclosed (cs : List Char) : Nat := openAfter 0 cs

/-- Parentheses are opened only where fewer than `limit` are open and closed only where one is. -/
def Nested (limit : Nat) : Nat → List Char → Prop
  | _, [] => True
  | n, c :: cs => (c = '(' → n < limit) ∧ (c = ')' → 0 < n) ∧ Nested limit (openNext n c) cs

/-- The place of the first parenthesis that is opened inside `limit` others. -/
def FirstBeyond (limit : Nat) (cs : List Char) (place : Nat) : Prop :=
  cs[place]? = some '(' ∧ unclosed (cs.take place) = limit ∧
    ∀ q < place, cs[q]? = some '(' → unclosed (cs.take q) ≠ limit

def Flat (cs : List Char) : Prop := ∀ c ∈ cs, c ≠ '(' ∧ c ≠ ')'

theorem openNext_of_ne {c : Char} (opens : c ≠ '(') (closes : c ≠ ')') (n : Nat) :
    openNext n c = n := by
  rw [openNext, if_neg opens, if_neg closes]

theorem openAfter_append (n : Nat) (cs ds : List Char) :
    openAfter n (cs ++ ds) = openAfter (openAfter n cs) ds := by
  induction cs generalizing n with
  | nil => rfl
  | cons c cs ih => exact ih _

theorem nested_append {limit n : Nat} {cs ds : List Char} :
    Nested limit n (cs ++ ds) ↔ Nested limit n cs ∧ Nested limit (openAfter n cs) ds := by
  induction cs generalizing n with
  | nil => simp [Nested, openAfter]
  | cons c cs ih => simp only [List.cons_append, Nested, openAfter, ih, and_assoc]

theorem Flat.cons {c : Char} {cs : List Char} (opens : c ≠ '(') (closes : c ≠ ')')
    (flat : Flat cs) : Flat (c :: cs) := by
  intro d member
  rcases List.mem_cons.mp member with rfl | member
  · exact ⟨opens, closes⟩
  · exact flat d member

theorem Flat.append {cs ds : List Char} (first : Flat cs) (second : Flat ds) : Flat (cs ++ ds) := by
  intro c member
  rcases List.mem_append.mp member with member | member
  · exact first c member
  · exact second c member

theorem Flat.openAfter {cs : List Char} (flat : Flat cs) (n : Nat) : openAfter n cs = n := by
  induction cs with
  | nil => rfl
  | cons c cs ih =>
    obtain ⟨opens, closes⟩ := flat c (List.mem_cons_self ..)
    rw [Text.openAfter, openNext_of_ne opens closes]
    exact ih fun d member => flat d (List.mem_cons_of_mem _ member)

theorem Flat.nested {cs : List Char} (flat : Flat cs) (limit n : Nat) : Nested limit n cs := by
  induction cs with
  | nil => trivial
  | cons c cs ih =>
    obtain ⟨opens, closes⟩ := flat c (List.mem_cons_self ..)
    refine ⟨fun h => absurd h opens, fun h => absurd h closes, ?_⟩
    rw [openNext_of_ne opens closes]
    exact ih fun d member => flat d (List.mem_cons_of_mem _ member)

theorem flat_takeWhile {accept : Char → Bool} (opens : accept '(' = false)
    (closes : accept ')' = false) (cs : List Char) : Flat (cs.takeWhile accept) := by
  intro c member
  have accepted := List.mem_takeWhile_imp member
  constructor
  all_goals
    rintro rfl
    simp_all

theorem openAfter_lt_of_nested {limit n : Nat} {cs ds : List Char}
    (nested : Nested limit n (cs ++ '(' :: ds)) : openAfter n cs < limit :=
  (nested_append.mp nested).2.1 rfl

/-- Nested text with as many parentheses open as may be, and one more opened after it. -/
structure Overflows (limit : Nat) (front back cs : List Char) : Prop where
  split : cs = front ++ '(' :: back
  nested : Nested limit 0 front
  full : unclosed front = limit

theorem Overflows.firstBeyond {limit : Nat} {front back cs : List Char}
    (h : Overflows limit front back cs) : FirstBeyond limit cs front.length := by
  obtain ⟨rfl, nested, full⟩ := h
  refine ⟨by simp, by simp [full], ?_⟩
  intro q before opens
  rw [List.getElem?_append_left before] at opens
  obtain ⟨bound, opens⟩ := List.getElem?_eq_some_iff.mp opens
  have split : front = front.take q ++ '(' :: front.drop (q + 1) := by
    rw [← opens, List.getElem_cons_drop, List.take_append_drop]
  rw [split] at nested
  rw [List.take_append_of_le_length (Nat.le_of_lt before)]
  exact Nat.ne_of_lt (openAfter_lt_of_nested nested)

end Text

namespace Scanner

open Text

variable {σ : Type} [Source σ] {limit n m k : Nat} {s t u : Scanner σ} {c : Char}

/-- Going on from one scanner to another takes text that leads from `n` open parentheses to `m`
and never opens one inside `limit` others. -/
def Takes (limit n : Nat) (s : Scanner σ) (m : Nat) (t : Scanner σ) : Prop :=
  ∃ taken, s.upcoming = taken ++ t.upcoming ∧ Nested limit n taken ∧ openAfter n taken = m

theorem Takes.refl (limit n : Nat) (s : Scanner σ) : Takes limit n s n s :=
  ⟨[], rfl, trivial, rfl⟩

theorem Takes.trans (first : Takes limit n s m t) (second : Takes limit m t k u) :
    Takes limit n s k u := by
  obtain ⟨cs, split, nested, rfl⟩ := first
  obtain ⟨ds, splitAgain, nestedAgain, rfl⟩ := second
  refine ⟨cs ++ ds, ?_, nested_append.mpr ⟨nested, nestedAgain⟩, openAfter_append n cs ds⟩
  rw [split, splitAgain, List.append_assoc]

theorem takes_of_flat {taken : List Char} (flat : Flat taken)
    (split : s.upcoming = taken ++ t.upcoming) : Takes limit n s n t :=
  ⟨taken, split, flat.nested limit n, flat.openAfter n⟩

theorem flat_blanks (cs : List Char) : Flat (cs.takeWhile isBlank) :=
  flat_takeWhile (by decide) (by decide) cs

theorem takes_skip (present : s.lookahead = some c) (opens : c = '(' → n < limit)
    (closes : c = ')' → 0 < n) : Takes limit n s (openNext n c) s.skip := by
  have blanks := flat_blanks s.upcoming.tail
  refine ⟨c :: s.upcoming.tail.takeWhile isBlank, ?_, ?_, blanks.openAfter _⟩
  · rw [upcoming_skip, List.cons_append, List.takeWhile_append_dropWhile, ← upcoming_of_some present]
  · exact ⟨opens, closes, blanks.nested _ _⟩

theorem takes_opening (present : s.lookahead = some '(') (fits : n < limit) :
    Takes limit n s (n + 1) s.skip :=
  takes_skip present (fun _ => fits) (fun h => absurd h (by decide))

theorem takes_closing (present : s.lookahead = some ')') : Takes limit (n + 1) s n s.skip :=
  takes_skip present (fun h => absurd h (by decide)) (fun _ => Nat.succ_pos n)

theorem takes_operator {op : Operator} (found : s.operator? = some op) :
    Takes limit n s n s.skip := by
  have opens : op.symbol ≠ '(' := by cases op <;> decide
  have closes : op.symbol ≠ ')' := by cases op <;> decide
  have taken : Takes limit n s (openNext n op.symbol) s.skip :=
    takes_skip (lookahead_of_operator? found) (fun h => absurd h opens) (fun h => absurd h closes)
  rwa [openNext_of_ne opens closes] at taken

theorem takes_identifier (present : s.lookahead = some c) (letter : isLetter c = true) :
    Takes limit n s n s.identifier.2 := by
  have opens : c ≠ '(' := by rintro rfl; revert letter; decide
  have closes : c ≠ ')' := by rintro rfl; revert letter; decide
  have name : Flat (s.upcoming.tail.takeWhile isLetterOrNumeric) :=
    flat_takeWhile (by decide) (by decide) _
  have blanks := flat_blanks (s.upcoming.tail.dropWhile isLetterOrNumeric)
  refine takes_of_flat ((name.cons opens closes).append blanks) ?_
  rw [upcoming_identifier, List.append_assoc, List.takeWhile_append_dropWhile, List.cons_append,
    List.takeWhile_append_dropWhile, ← upcoming_of_some present]

theorem takes_integer (s : Scanner σ) : Takes limit n s n s.integer.2 := by
  have digits : Flat (s.upcoming.takeWhile Char.isDigit) :=
    flat_takeWhile (by decide) (by decide) _
  have blanks := flat_blanks (s.upcoming.dropWhile Char.isDigit)
  refine takes_of_flat (digits.append blanks) ?_
  rw [upcoming_integer, List.append_assoc, List.takeWhile_append_dropWhile,
    List.takeWhile_append_dropWhile]

end Scanner

variable {σ : Type} [Source σ] {part : Part} {room limit n : Nat} {s rest : Scanner σ}
  {result : Except Diagnostic Expr}

/-- What was read leaves as many parentheses open as there were. The induction generalizes over
how many that are: a group has one more outside and one less of room. -/
theorem Descent.takes (h : Descent part room s result rest) {e : Expr} (ok : result = .ok e)
    (total : n + room = limit) : Scanner.Takes limit n s n rest := by
  induction h generalizing n e with
  | symbol present letter => exact Scanner.takes_identifier present letter
  | @number room s rest c value present other digit fits =>
    have taken : Scanner.Takes limit n s n s.integer.2 := s.takes_integer
    rwa [fits] at taken
  | tooLarge | noFactor | tooDeep | unclosed | groupFails | firstFails | againFails =>
    contradiction
  | @group room s rest f present inner closed ih =>
    have fits : n < limit := by omega
    have inside := ih ok (n := n + 1) (by omega)
    exact (Scanner.takes_opening present fits).trans (inside.trans (Scanner.takes_closing closed))
  | first _ ih => exact ih ok total
  | again spine found same operand ihs iho =>
    have left := ihs rfl total
    have right := iho rfl total
    exact left.trans ((Scanner.takes_operator found).trans right)
  | ended _ _ ih => exact ih ok total

/-- A descent that is refused as too deep stands at an opening parenthesis with all that may be
open around it. -/
theorem Descent.takes_tooDeep (h : Descent part room s result rest) {diagnostic : Diagnostic}
    (refused : result = .error diagnostic)
    (deep : diagnostic.fault = .nestingTooDeep nestingLimit) (total : n + room = limit) :
    Scanner.Takes limit n s limit rest ∧ rest.lookahead = some '(' ∧
      diagnostic.position = rest.position := by
  induction h generalizing n with
  | symbol | number | group | first | again | ended => contradiction
  | @tooLarge room s rest c d present other digit exceeds =>
    rw [← Except.error.inj refused, Scanner.of_integer_error exceeds] at deep
    contradiction
  | noFactor | unclosed =>
    rw [← Except.error.inj refused] at deep
    contradiction
  | tooDeep present =>
    obtain rfl : n = limit := total
    rw [← Except.error.inj refused]
    exact ⟨.refl n n _, present, rfl⟩
  | @groupFails room s rest d present inner ih =>
    have fits : n < limit := by omega
    obtain ⟨inside, stands, place⟩ := ih refused (n := n + 1) (by omega)
    exact ⟨(Scanner.takes_opening present fits).trans inside, stands, place⟩
  | firstFails _ ih => exact ih refused total
  | againFails spine found same operand ihs iho =>
    have left := spine.takes rfl total
    obtain ⟨right, stands, place⟩ := iho refused total
    exact ⟨left.trans ((Scanner.takes_operator found).trans right), stands, place⟩

theorem Descent.extent (h : Descent part room s result rest) : rest.extent = s.extent := by
  induction h with
  | symbol => exact Scanner.extent_identifier _
  | @number room s rest c value present other digit fits =>
    have extent := s.extent_integer
    rwa [fits] at extent
  | @tooLarge room s rest c d present other digit exceeds =>
    have extent := s.extent_integer
    rwa [exceeds] at extent
  | noFactor | tooDeep => rfl
  | group _ _ _ ih => rw [Scanner.extent_skip, ih, Scanner.extent_skip]
  | unclosed _ _ _ ih | groupFails _ _ ih => rw [ih, Scanner.extent_skip]
  | first _ ih | ended _ _ ih | firstFails _ ih => exact ih
  | again _ _ _ _ ihs iho => rw [Scanner.extent_record, iho, Scanner.extent_skip, ihs]
  | againFails _ _ _ _ ihs iho => rw [iho, Scanner.extent_skip, ihs]

theorem Descent.taken_of_text {text : String} {rest : Scanner (List Char)} {m : Nat}
    (h : Descent part room (Scanner.ofText text) result rest)
    (takes : Scanner.Takes limit 0 (Scanner.ofText text) m rest) :
    ∃ taken, text.toList = taken ++ rest.upcoming ∧ rest.position = taken.length ∧
      Text.Nested limit 0 taken ∧ Text.unclosed taken = m := by
  obtain ⟨taken, split, nested, level⟩ := takes
  have blanks := Scanner.flat_blanks text.toList
  have extent := h.extent
  rw [Scanner.ofText, Scanner.extent_ofSource, Source.yielded_text, Scanner.extent] at extent
  rw [Scanner.ofText, Scanner.upcoming_ofSource, Source.yielded_text] at split
  have whole : text.toList = (text.toList.takeWhile Text.isBlank ++ taken) ++ rest.upcoming := by
    rw [List.append_assoc, ← split, List.takeWhile_append_dropWhile]
  refine ⟨_, whole, ?_, ?_, ?_⟩
  · have length := congrArg List.length whole
    rw [List.length_append] at length
    omega
  · rw [Text.nested_append, blanks.openAfter]
    exact ⟨blanks.nested limit 0, nested⟩
  · rw [Text.unclosed, Text.openAfter_append, blanks.openAfter, level]

/-- A text that is refused as too deep is nested up to where it is refused, with all open that may
be. -/
theorem overflows_of_tooDeep {text : String} {rest : Scanner (List Char)} {diagnostic : Diagnostic}
    (h : Descent (.chain .additive) nestingLimit (Scanner.ofText text) (.error diagnostic) rest)
    (deep : diagnostic.fault = .nestingTooDeep nestingLimit) :
    ∃ front back, Text.Overflows 256 front back text.toList ∧
      diagnostic = ⟨.nestingTooDeep 256, front.length⟩ := by
  obtain ⟨takes, stands, place⟩ := h.takes_tooDeep rfl deep (Nat.zero_add nestingLimit)
  obtain ⟨front, split, position, nested, full⟩ := h.taken_of_text takes
  rw [Scanner.upcoming_of_some stands] at split
  refine ⟨front, _, ⟨split, nested, full⟩, ?_⟩
  rw [← position, ← place]
  exact congrArg (Diagnostic.mk · diagnostic.position) deep

/-- A text is refused as too deep at the first parenthesis that is opened inside 256 others. -/
theorem parseText_of_tooDeep {text : String} {rest : Scanner (List Char)} {diagnostic : Diagnostic}
    (h : Descent (.chain .additive) nestingLimit (Scanner.ofText text) (.error diagnostic) rest)
    (deep : diagnostic.fault = .nestingTooDeep nestingLimit) :
    ∃ place, Text.FirstBeyond 256 text.toList place ∧
      Parser.parseText text = .error ⟨.nestingTooDeep 256, place⟩ := by
  obtain ⟨front, back, overflows, rfl⟩ := overflows_of_tooDeep h deep
  exact ⟨front.length, overflows.firstBeyond, Parser.parseComplete_of_descent_error h⟩

end Reckoner
