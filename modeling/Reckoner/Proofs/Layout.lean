import Reckoner.Expr.Postorder
import Reckoner.Proofs.Course

/-! Where the nodes of a tree stand in the text it was read from. Every leaf has a span that holds
exactly its characters and every operator a position, and from left to right these follow each
other with nothing between them but blanks and parentheses (`Tiles`). So a tree accounts for each
character of its text once (`parseText_laid`). -/
namespace Reckoner

/-- The span holds exactly these characters of a text. -/
def Span.Holds (span : Span) (text cs : List Char) : Prop :=
  ∃ before after, text = before ++ cs ++ after ∧
    span.start = before.length ∧ span.stop = before.length + cs.length

namespace Expr

/-- Every node stands where the text has it. -/
def Placed (text : List Char) : Expr → Prop
  | number value span => ∃ digits, span.Holds text digits ∧ digits ≠ [] ∧
      (∀ c ∈ digits, c.isDigit = true) ∧ value.toInt = Nat.ofDigitChars 10 digits 0
  | symbol name span => span.Holds text name.toList
  | binary op position left right span => left.Placed text ∧ right.Placed text ∧
      span.start = left.span.start ∧ span.stop = right.span.stop ∧
      left.span.stop ≤ position ∧ position < right.span.start ∧ text[position]? = some op.symbol

/-- The spans of leaves and operators from left to right. -/
def marks : Expr → List Span
  | number _ span | symbol _ span => [span]
  | binary _ position left right _ => left.marks ++ ⟨position, position + 1⟩ :: right.marks

end Expr

namespace Text

/-- A character that may stand between the marks of a tree. -/
def Spare (c : Char) : Prop := isBlank c = true ∨ c = '(' ∨ c = ')'

/-- From one position of a text to another the spans follow each other, and what is between them can
be spared. -/
inductive Tiles (text : List Char) : Nat → List Span → Nat → Prop where
  | done (p : Nat) : Tiles text p [] p
  | gap {p q : Nat} {spans : List Span} {c : Char} (here : text[p]? = some c) (spare : Spare c)
      (rest : Tiles text (p + 1) spans q) : Tiles text p spans q
  | mark {p q : Nat} {span : Span} {spans : List Span} (starts : span.start = p)
      (proper : span.start < span.stop) (rest : Tiles text span.stop spans q) :
      Tiles text p (span :: spans) q

namespace Tiles

variable {text : List Char} {p q r : Nat} {xs ys : List Span}

theorem append (first : Tiles text p xs q) (second : Tiles text q ys r) :
    Tiles text p (xs ++ ys) r := by
  induction first with
  | done => exact second
  | gap here spare _ ih => exact .gap here spare (ih second)
  | mark starts proper _ ih => exact .mark starts proper (ih second)

theorem le (h : Tiles text p xs q) : p ≤ q := by
  induction h with
  | done => exact Nat.le_refl _
  | gap _ _ _ ih => omega
  | mark starts proper _ ih => omega

theorem bounds (h : Tiles text p xs q) {m : Span} (member : m ∈ xs) :
    p ≤ m.start ∧ m.start < m.stop ∧ m.stop ≤ q := by
  induction h with
  | done => simp at member
  | gap _ _ _ ih =>
    have := ih member
    omega
  | mark starts proper rest ih =>
    rcases List.mem_cons.mp member with rfl | later
    · exact ⟨Nat.le_of_eq starts.symm, proper, rest.le⟩
    · have := ih later
      omega

/-- Marks come in strictly increasing order and share no character. -/
theorem ordered (h : Tiles text p xs q) :
    xs.Pairwise fun a b => a.start < b.start ∧ a.stop ≤ b.start := by
  induction h with
  | done => exact .nil
  | gap _ _ _ ih => exact ih
  | mark starts proper rest ih =>
    apply List.pairwise_cons.mpr
    refine ⟨?_, ih⟩
    intro b member
    have := rest.bounds member
    omega

theorem covers (h : Tiles text p xs q) {i : Nat} {c : Char} (low : p ≤ i) (high : i < q)
    (here : text[i]? = some c) : (∃ m ∈ xs, m.start ≤ i ∧ i < m.stop) ∨ Spare c := by
  induction h with
  | done => omega
  | @gap p q spans d stands spare rest ih =>
    by_cases first : i = p
    · subst first
      rw [here] at stands
      obtain rfl := Option.some.inj stands
      exact .inr spare
    · exact ih (by omega) high
  | @mark p q span spans starts proper rest ih =>
    by_cases inside : i < span.stop
    · exact .inl ⟨span, by simp, by omega, inside⟩
    · rcases ih (by omega) high with ⟨m, member, holds⟩ | spare
      · exact .inl ⟨m, by simp [member], holds⟩
      · exact .inr spare

end Tiles

theorem trimEnd_append_blanks (cs : List Char) :
    ∃ blanks, cs = trimEnd cs ++ blanks ∧ ∀ c ∈ blanks, isBlank c = true := by
  refine ⟨(cs.reverse.takeWhile isBlank).reverse, ?_, ?_⟩
  · rw [trimEnd, ← List.reverse_append, List.takeWhile_append_dropWhile, List.reverse_reverse]
  · intro c member
    exact List.mem_takeWhile_imp (List.mem_reverse.mp member)

theorem tiles_of_spare {text front back : List Char} {p : Nat} (here : text.drop p = front ++ back)
    (spare : ∀ c ∈ front, Spare c) : Tiles text p [] (p + front.length) := by
  induction front generalizing p with
  | nil => exact .done p
  | cons c front ih =>
    have first : text[p]? = some c := by simp [← List.head?_drop, here]
    have later : text.drop (p + 1) = front ++ back := by simp [← List.tail_drop, here]
    have rest := ih later fun d member => spare d (List.mem_cons_of_mem _ member)
    rw [Nat.add_assoc, Nat.add_comm 1] at rest
    exact .gap first (spare c (List.mem_cons_self ..)) rest

end Text

namespace Scanner

open Text

variable {σ : Type} [Source σ] {text : List Char} {s : Scanner σ} {c : Char}

theorem lastEnd_skip (present : s.lookahead = some c) (visible : isBlank c = false) :
    s.skip.lastEnd = s.position + 1 := by
  rw [skip, lastEnd_skipBlanks, lastEnd_advance_of_visible present visible, position_advance present]

namespace Along

theorem tiles_lastEnd (along : s.Along text) : Tiles text s.lastEnd [] s.position := by
  obtain ⟨blanks, split, blank⟩ := trimEnd_append_blanks (text.take s.position)
  have length := congrArg List.length split
  rw [List.length_append, ← along.lastEnd, List.length_take, Nat.min_eq_left along.within] at length
  have whole : text = trimEnd (text.take s.position) ++ (blanks ++ text.drop s.position) := by
    rw [← List.append_assoc, ← split, List.take_append_drop]
  have here := congrArg (List.drop s.lastEnd) whole
  rw [along.lastEnd, List.drop_left, ← along.lastEnd] at here
  rw [length]
  exact tiles_of_spare here fun c member => .inl (blank c member)

theorem tiles_start {text : String} (along : (ofText text).Along text.toList) :
    Tiles text.toList 0 [] (ofText text).position := by
  have blanks := along.tiles_lastEnd
  rwa [ofText, ofSource, lastEnd_skipBlanks, lastEnd_load] at blanks

theorem holds (along : s.Along text) {cs back : List Char} (split : s.upcoming = cs ++ back) :
    Span.Holds ⟨s.position, s.position + cs.length⟩ text cs := by
  have before : (text.take s.position).length = s.position := by
    rw [List.length_take, Nat.min_eq_left along.within]
  refine ⟨text.take s.position, back, ?_, before.symm, by simp [before]⟩
  rw [List.append_assoc, ← split, along.upcoming, List.take_append_drop]

theorem holds_identifier (along : s.Along text) (present : s.lookahead = some c)
    (letter : isLetter c = true) :
    Span.Holds ⟨s.position, s.identifier.2.lastEnd⟩ text s.identifier.1.toList := by
  rw [lastEnd_identifier present letter]
  have split : s.upcoming =
      s.identifier.1.toList ++ s.upcoming.tail.dropWhile isLetterOrNumeric := by
    rw [identifier_fst, String.toList_ofList, present, Option.getD_some, List.cons_append,
      List.takeWhile_append_dropWhile, ← upcoming_of_some present]
  exact along.holds split

theorem holds_integer (along : s.Along text) (present : s.lookahead = some c)
    (digit : c.isDigit = true) :
    Span.Holds ⟨s.position, s.integer.2.lastEnd⟩ text (s.upcoming.takeWhile Char.isDigit) := by
  rw [lastEnd_integer present digit]
  exact along.holds (s.upcoming.takeWhile_append_dropWhile (p := Char.isDigit)).symm

theorem tiles_identifier (along : s.Along text) (present : s.lookahead = some c)
    (letter : isLetter c = true) :
    Tiles text s.position [⟨s.position, s.identifier.2.lastEnd⟩] s.identifier.2.position := by
  have proper : s.position < s.identifier.2.lastEnd := by
    rw [lastEnd_identifier present letter, identifier_fst, String.toList_ofList, List.length_cons]
    omega
  exact .mark rfl proper (along.onward (.identifier s)).tiles_lastEnd

theorem tiles_integer (along : s.Along text) (present : s.lookahead = some c)
    (digit : c.isDigit = true) :
    Tiles text s.position [⟨s.position, s.integer.2.lastEnd⟩] s.integer.2.position := by
  have proper : s.position < s.integer.2.lastEnd := by
    rw [lastEnd_integer present digit, upcoming_of_some present, List.takeWhile_cons_of_pos digit,
      List.length_cons]
    omega
  exact .mark rfl proper (along.onward (.integer s)).tiles_lastEnd

theorem tiles_parenthesis (along : s.Along text) (present : s.lookahead = some c)
    (parenthesis : c = '(' ∨ c = ')') : Tiles text s.position [] s.skip.position := by
  have visible : isBlank c = false := by rcases parenthesis with rfl | rfl <;> decide
  have blanks := (along.onward (.skip s)).tiles_lastEnd
  rw [lastEnd_skip present visible] at blanks
  exact .gap (along.lookahead ▸ present) (.inr parenthesis) blanks

theorem tiles_operator (along : s.Along text) {op : Operator} (found : s.operator? = some op) :
    Tiles text s.position [⟨s.position, s.position + 1⟩] s.skip.position := by
  have visible : isBlank op.symbol = false := by cases op <;> decide
  have blanks := (along.onward (.skip s)).tiles_lastEnd
  rw [lastEnd_skip (lookahead_of_operator? found) visible] at blanks
  exact .mark rfl (Nat.lt_succ_self _) blanks

end Along

end Scanner

/-- A tree laid out in a text between two positions. -/
structure Expr.Laid (text : List Char) (p : Nat) (e : Expr) (q : Nat) : Prop where
  placed : e.Placed text
  tiles : Text.Tiles text p e.marks q
  start : p ≤ e.span.start
  stop : e.span.stop ≤ q

variable {σ : Type} [Source σ]

/-- What is read is laid out from where the reading started to where it stopped. -/
theorem Descent.laid {part : Part} {room : Nat} {s rest : Scanner σ} {text : List Char}
    {result : Except Diagnostic Expr} (h : Descent part room s result rest) (along : s.Along text)
    {e : Expr} (ok : result = .ok e) : e.Laid text s.position rest.position := by
  induction h generalizing e with
  | @symbol room s c present letter =>
    obtain rfl := Except.ok.inj ok
    have tiles := along.tiles_identifier present letter
    exact ⟨along.holds_identifier present letter, tiles, Nat.le_refl _,
      (tiles.bounds (List.mem_singleton_self _)).2.2⟩
  | @number room s rest c value present other digit fits =>
    obtain rfl := Except.ok.inj ok
    obtain ⟨small, rfl⟩ := Scanner.of_integer_ok fits
    have holds := along.holds_integer present digit
    have tiles := along.tiles_integer present digit
    rw [fits] at holds tiles
    refine ⟨⟨_, holds, ?_, ?_, ?_⟩, tiles, Nat.le_refl _,
      (tiles.bounds (List.mem_singleton_self _)).2.2⟩
    · rw [Scanner.upcoming_of_some present]
      simp [digit]
    · intro d member
      exact List.mem_takeWhile_imp member
    · exact Int64.toInt_ofInt_of_le (by omega) (by omega)
  | tooLarge | noFactor | tooDeep | unclosed | groupFails | firstFails | againFails =>
    contradiction
  | @group room s rest f present inner closed ih =>
    have inside := along.onward (.skip s)
    have opening := along.tiles_parenthesis present (.inl rfl)
    have laid := ih inside ok
    have closing := (inside.onward inner.onward).tiles_parenthesis closed (.inr rfl)
    refine ⟨laid.placed, ?_, Nat.le_trans opening.le laid.start, Nat.le_trans laid.stop closing.le⟩
    simpa using opening.append (laid.tiles.append closing)
  | first _ ih | ended _ _ ih => exact ih along ok
  | @again room power s middle rest left right op spine found same operand ihs iho =>
    obtain rfl := Except.ok.inj ok
    have between := along.onward spine.onward
    have first := ihs along rfl
    have second := iho (between.onward (.skip middle)) rfl
    have operator := between.tiles_operator found
    have shown : text[middle.position]? = some op.symbol :=
      between.lookahead ▸ Scanner.lookahead_of_operator? found
    have stands := operator.bounds (List.mem_singleton_self _)
    have leftStop := first.stop
    have rightStart := second.start
    constructor
    · refine ⟨first.placed, second.placed, rfl, rfl, leftStop, ?_, shown⟩
      simp only at stands
      omega
    · simpa [Expr.join, Expr.marks, Scanner.record] using
        first.tiles.append (operator.append second.tiles)
    · exact first.start
    · exact second.stop

/-- A tree that is read has each node where the text has it, and its leaves and operators are the
whole text but for blanks and parentheses, each character once and in order. -/
theorem parseText_laid (text : String) (e : Expr) (read : Parser.parseText text = .ok e) :
    e.Placed text.toList ∧
    (∀ m ∈ e.marks, m.start < m.stop ∧ m.stop ≤ text.length) ∧
    (e.marks.Pairwise fun a b => a.start < b.start ∧ a.stop ≤ b.start) ∧
    ∀ i c, text.toList[i]? = some c →
      (∃ m ∈ e.marks, m.start ≤ i ∧ i < m.stop) ∨ Text.isBlank c = true ∨ c = '(' ∨ c = ')' := by
  obtain ⟨rest, descent, absent⟩ := Parser.parseComplete_ok_iff.mp read
  have along := Scanner.along_ofText text
  have laid := descent.laid along rfl
  have tiles := along.tiles_start.append laid.tiles
  have ended := (along.onward descent.onward).position_of_end absent
  rw [List.nil_append, ended, String.length_toList] at tiles
  refine ⟨laid.placed, fun m member => (tiles.bounds member).2, tiles.ordered, ?_⟩
  intro i c here
  have inside := (List.getElem?_eq_some_iff.mp here).1
  rw [String.length_toList] at inside
  exact tiles.covers (Nat.zero_le i) inside here

/-- Neither the parentheses nor the blanks inside them belong to a mark. -/
theorem parseText_laid_group :
    ∃ e, Parser.parseText "( ab+12 )*x" = .ok e ∧ e.Placed "( ab+12 )*x".toList ∧
      e.marks = [⟨2, 4⟩, ⟨4, 5⟩, ⟨5, 7⟩, ⟨9, 10⟩, ⟨10, 11⟩] := by
  have read : Parser.parseText "( ab+12 )*x" =
      .ok (.binary .times 9
        (.binary .plus 4 (.symbol "ab" ⟨2, 4⟩) (.number 12 ⟨5, 7⟩) ⟨2, 7⟩)
        (.symbol "x" ⟨10, 11⟩) ⟨2, 11⟩) := by
    decide +kernel
  exact ⟨_, read, (parseText_laid _ _ read).1, rfl⟩

end Reckoner
