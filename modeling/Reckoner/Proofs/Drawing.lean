import Reckoner.Diagnostic.Render
import Reckoner.Proofs.ExactValue
import Reckoner.Proofs.Failure
import Reckoner.Proofs.Places

/-! Where the caret of a drawing points. A diagnostic that comes of a text is about a visible
character or about the end (`Arises.apt`), and nothing that its heading quotes breaks the line. The
drawing has four lines, and the caret is below that character: the indentation that is cut off on
the left is part of neither line, and no trimming on the right takes a visible character away. -/
namespace Reckoner

namespace Diagnostic

open Text

theorem isBlank_of_isIndent {c : Char} (h : isIndent c = true) : isBlank c = true := by
  simp only [isIndent, Bool.or_eq_true, decide_eq_true_eq] at h
  rcases h with rfl | rfl <;> decide

section Shown

variable {place : Place} {c : Char}

/-- Without its indentation a line is trimmed to the same end. -/
theorem trimEnd_line (place : Place) :
    trimEnd place.line =
      if shownLine place = [] then [] else place.line.takeWhile isIndent ++ shownLine place := by
  have blank : trimEnd (place.line.takeWhile isIndent) = [] := by
    apply trimEnd_eq_nil_iff.mpr
    intro c member
    exact isBlank_of_isIndent (List.mem_takeWhile_imp member)
  have whole := trimEnd_append (place.line.takeWhile isIndent) (place.line.dropWhile isIndent)
  rwa [List.takeWhile_append_dropWhile, blank] at whole

theorem length_shownLine (place : Place) :
    (shownLine place).length =
      (trimEnd place.line).length - (place.line.takeWhile isIndent).length := by
  rw [trimEnd_line]
  split
  · next none => simp [none]
  · rw [List.length_append, Nat.add_sub_cancel_left]

theorem getElem?_shownLine (here : place.line[place.column]? = some c)
    (visible : isBlank c = false) : (shownLine place)[caretWidth place - 1]? = some c := by
  have split := place.line.takeWhile_append_dropWhile (p := isIndent)
  have after : (place.line.takeWhile isIndent).length ≤ place.column := by
    apply Nat.le_of_not_lt
    intro before
    rw [← split, List.getElem?_append_left before] at here
    have indent := List.mem_takeWhile_imp (List.mem_of_getElem? here)
    rw [isBlank_of_isIndent indent] at visible
    contradiction
  rw [← split, List.getElem?_append_right after] at here
  exact getElem?_trimEnd here visible

theorem not_mem_shownLine {before after : List Char} (h : IsLine before place.line after) :
    '\n' ∉ shownLine place := by
  intro member
  apply h.not_mem_trimEnd
  rw [trimEnd_line, if_neg (List.ne_nil_of_mem member)]
  exact List.mem_append_right _ member

end Shown

end Diagnostic

namespace Fault

/-- What a tip says beside its fixed words. -/
def quoted : Fault → List Char
  | unexpectedCharacter expected found => expected :: found.toList
  | expectedFactor found => found.toList
  | numberTooLarge token => token.toList
  | nestingTooDeep limit => (Decimal.ofNat limit).toList
  | trailingInput found => [found]
  | divisionByZero => []
  | overflow operation => operation.toList

theorem not_mem_describe {found : Option Char} (plain : '\n' ∉ found.toList) :
    '\n' ∉ (describe found).toList := by
  cases found with
  | none => decide
  | some c => simpa [describe, ticked] using plain

/-- Only what it quotes can break the line of a tip. -/
theorem not_mem_tip {fault : Fault} {tip : String} (plain : '\n' ∉ fault.quoted)
    (told : fault.tip = some tip) : '\n' ∉ tip.toList := by
  cases fault with
  | unexpectedCharacter expected found =>
    obtain rfl := Option.some.inj told
    obtain ⟨other, visible⟩ := not_or.mp (mt List.mem_cons.mpr plain)
    simp [ticked, other, not_mem_describe visible]
  | expectedFactor found =>
    obtain rfl := Option.some.inj told
    simp [not_mem_describe plain]
  | divisionByZero => contradiction
  | numberTooLarge | nestingTooDeep | trailingInput | overflow =>
    obtain rfl := Option.some.inj told
    simpa [quoted, ticked] using plain

end Fault

theorem Diagnostic.not_mem_heading {d : Diagnostic} (plain : '\n' ∉ d.fault.quoted) :
    '\n' ∉ d.heading.toList := by
  have named : '\n' ∉ d.fault.name.toList := by cases d.fault <;> simp [Fault.name]
  unfold heading
  split
  · next tip told => simp [named, Fault.not_mem_tip plain told]
  · simp [named]

/-- A diagnostic that can be drawn on a text: it is about a visible character or about the end, and
its heading stays on one line. -/
structure Diagnostic.Apt (text : List Char) (d : Diagnostic) : Prop where
  within : d.position ≤ text.length
  visible : ∀ c, text[d.position]? = some c → Text.isBlank c = false
  plain : '\n' ∉ d.fault.quoted

theorem Text.ne_feed_of_visible {c : Char} (visible : isBlank c = false) : '\n' ≠ c := by
  rintro rfl
  revert visible
  decide

theorem Text.not_mem_of_isDigit {cs : List Char} (digits : ∀ c ∈ cs, c.isDigit = true) :
    '\n' ∉ cs := fun member => absurd (digits _ member) (by decide)

section Parsing

variable {σ : Type} [Source σ] {text : List Char} {s rest : Scanner σ}

theorem Scanner.Settled.not_mem_lookahead (settled : s.Settled) : '\n' ∉ s.lookahead.toList := by
  intro member
  exact Text.ne_feed_of_visible (settled _ (Option.mem_toList.mp member)) rfl

/-- Between tokens a scanner is nowhere a diagnostic could not be. -/
theorem Scanner.Settled.apt (settled : s.Settled) (along : s.Along text) {fault : Fault}
    (plain : '\n' ∉ fault.quoted) : Diagnostic.Apt text ⟨fault, s.position⟩ where
  within := along.within
  visible c here := settled c (along.lookahead.trans here)
  plain := plain

theorem Refused.apt {room : Nat} {d : Diagnostic} (h : Refused room s d rest)
    (settled : s.Settled) (along : s.Along text) : d.Apt text := by
  cases h with
  | tooLarge present other digit exceeds =>
    obtain rfl := Scanner.of_integer_error exceeds
    refine settled.apt along (Text.not_mem_of_isDigit ?_)
    intro c member
    rw [Fault.quoted, String.toList_ofList] at member
    exact List.mem_takeWhile_imp member
  | noFactor none => exact settled.apt along settled.not_mem_lookahead
  | tooDeep present => exact settled.apt along (by decide)
  | unclosed present inner missing =>
    have after := inner.settled (Scanner.settled_skip s)
    have reached := (along.onward (.skip s)).onward inner.onward
    refine after.apt reached ?_
    simpa [Fault.quoted] using after.not_mem_lookahead

end Parsing

theorem Parser.apt_of_parseText {text : String} {d : Diagnostic} (h : parseText text = .error d) :
    d.Apt text.toList := by
  have settled := Scanner.settled_ofText text
  have along := Scanner.along_ofText text
  rcases of_parseComplete_error h with ⟨rest, descent⟩ | ⟨e, rest, c, descent, present, rfl⟩
  · obtain ⟨left, u, path, refused⟩ := descent.refused rfl
    exact refused.apt (path.settled settled) (along.onward path.onward)
  · have after := descent.settled settled
    refine after.apt (along.onward descent.onward) ?_
    simpa [Fault.quoted] using Text.ne_feed_of_visible (after c present)

theorem Decimal.not_mem_ofInt (n : Int) : '\n' ∉ (Decimal.ofInt n).toList := by
  intro member
  rcases isDigit_or_sign_of_mem_ofInt member with digit | sign <;> contradiction

theorem Application.not_mem_quoted (a : Application) : '\n' ∉ a.fault.quoted := by
  unfold fault
  split
  · exact List.not_mem_nil
  · have symbol : '\n' ≠ a.operator.symbol := by cases a.operator <;> decide
    rw [← Decimal.ofInt_eq_toString, ← Decimal.ofInt_eq_toString]
    simp [Fault.quoted, Operator.text, Decimal.not_mem_ofInt, symbol]

/-- Every application is at the symbol of its operator. -/
theorem Expr.Placed.application {text : List Char} {e : Expr} (h : e.Placed text)
    {env : Environment} {a : Application} (member : a ∈ e.applications env) :
    text[a.position]? = some a.operator.symbol := by
  induction e with
  | number | symbol => simp [applications] at member
  | binary op position left right span ihl ihr =>
    obtain ⟨first, second, _, _, _, _, here⟩ := h
    simp only [applications, List.mem_append, List.mem_singleton] at member
    rcases member with (before | after) | rfl
    · exact ihl first before
    · exact ihr second after
    · exact here

theorem Expr.apt_of_eval {text : String} {e : Expr} {env : Environment} {d : Diagnostic}
    (read : Parser.parseText text = .ok e) (h : e.eval env = .error d) : d.Apt text.toList := by
  obtain ⟨rest, descent, _⟩ := Parser.parseComplete_ok_iff.mp read
  have placed := (descent.laid (Scanner.along_ofText text) rfl).placed
  obtain ⟨a, first, rfl⟩ := (eval_eq_iff env e (.error d)).mp h
  have here := placed.application (List.mem_of_find?_eq_some first)
  constructor
  · exact Nat.le_of_lt (List.getElem?_eq_some_iff.mp here).1
  · intro c shown
    obtain rfl := Option.some.inj (here.symm.trans shown)
    cases a.operator <;> decide
  · exact a.not_mem_quoted

namespace Diagnostic

/-- The diagnostic comes of reading a text, or of evaluating what was read. -/
def Arises (text : String) (d : Diagnostic) : Prop :=
  Parser.parseText text = .error d ∨
    ∃ e env, Parser.parseText text = .ok e ∧ e.eval env = .error d

theorem Arises.apt {text : String} {d : Diagnostic} (h : d.Arises text) : d.Apt text.toList := by
  rcases h with refused | ⟨e, env, read, failed⟩
  · exact Parser.apt_of_parseText refused
  · exact Expr.apt_of_eval read failed

end Diagnostic

namespace Text.Place

open Diagnostic

def digits (place : Place) : List Char := Nat.toDigits 10 place.number

/-- The lines of a drawing below its heading: a bar, the line itself, and all that stands before the
caret. -/
def bar (place : Place) : List Char := List.replicate (place.digits.length + 1) ' ' ++ ['|']
def shown (place : Place) : List Char := place.digits ++ " | ".toList ++ shownLine place
def lead (place : Place) : List Char :=
  place.bar ++ ' ' :: List.replicate (caretWidth place - 1) '-'

variable {place : Place}

theorem length_lead (place : Place) :
    place.lead.length = place.digits.length + 3 + (caretWidth place - 1) := by
  simp [lead, bar]
  omega

theorem length_shown (place : Place) :
    place.shown.length = place.digits.length + 3 + (shownLine place).length := by
  simp [shown]
  omega

theorem getElem?_shown (place : Place) :
    place.shown[place.lead.length]? = (shownLine place)[caretWidth place - 1]? := by
  have front : (place.digits ++ " | ".toList).length = place.digits.length + 3 := by simp
  rw [shown, length_lead, List.getElem?_append_right (by omega), front, Nat.add_sub_cancel_left]

theorem not_mem_bar (place : Place) : '\n' ∉ place.bar := by
  simp [bar]

theorem not_mem_lead (place : Place) : '\n' ∉ place.lead ∧ '^' ∉ place.lead := by
  simp [lead, bar]

theorem not_mem_shown {before after : List Char} (h : IsLine before place.line after) :
    '\n' ∉ place.shown := by
  have digits : '\n' ∉ place.digits := not_mem_of_isDigit fun c member =>
    Nat.isDigit_of_mem_toDigits (by decide) (by decide) member
  simp [shown, digits, not_mem_shownLine h]

section OfText

variable {cs : List Char} {position : Nat}

/-- The caret is below a visible character, on the line that the line feeds before it number. -/
theorem shown_of_visible {c : Char} (here : cs[position]? = some c) (visible : isBlank c = false) :
    (placeOf cs position).shown[(placeOf cs position).lead.length]? = some c ∧
      (toString (1 + (cs.take position).count '\n')).toList ++ " | ".toList <+:
        (placeOf cs position).shown := by
  have inside := (List.getElem?_eq_some_iff.mp here).1
  obtain ⟨before, after, stands⟩ := stands_placeOf inside
  constructor
  · rw [getElem?_shown]
    exact getElem?_shownLine (stands.getElem?.trans here) visible
  · have number : 1 + (cs.take position).count '\n' = (placeOf cs position).number := by
      rw [stands.count_take, stands.number, Nat.add_comm]
    rw [number]
    simp [shown, digits]

theorem length_lead_of_end (past : cs.length ≤ position) :
    (placeOf cs position).lead.length = (placeOf cs position).shown.length := by
  rw [length_lead, length_shown, length_shownLine, ← column_placeOf_of_end past, caretWidth,
    Nat.add_sub_cancel]

theorem shown_of_blank (past : cs.length ≤ position) (blank : ∀ c ∈ cs, isBlank c = true) :
    (placeOf cs position).shown = "1 | ".toList := by
  rw [placeOf_of_end past, if_pos (trimEnd_eq_nil_iff.mpr blank)]
  decide

theorem shown_of_last {last : Nat} {c : Char} (past : cs.length ≤ position)
    (here : cs[last]? = some c) (visible : isBlank c = false)
    (blank : ∀ c ∈ cs.drop (last + 1), isBlank c = true) :
    ∃ place before after, Stands cs last place before after ∧
      (placeOf cs position).shown =
        (toString place.number).toList ++ " | ".toList ++ shownLine place := by
  have length := length_trimEnd_of_last here visible blank
  have some : trimEnd cs ≠ [] := List.ne_nil_of_length_eq_add_one length
  obtain ⟨place, before, after, stands, same⟩ := stands_placeOf_of_end past some
  rw [length, Nat.add_sub_cancel] at stands
  refine ⟨place, before, after, stands, ?_⟩
  rw [same]
  simp [shown, digits, shownLine]

end OfText

end Text.Place

namespace Diagnostic

open Text

/-- A drawing is its heading and three lines that the place decides. -/
theorem splitOn_render {d : Diagnostic} {text : String} (plain : '\n' ∉ d.fault.quoted)
    (fits : caretWidth (placeOf text.toList d.position) ≤ 65535) :
    ∃ drawing, d.render text = .ok drawing ∧
      drawing.toList.splitOn '\n' = [d.heading.toList,
        (placeOf text.toList d.position).bar, (placeOf text.toList d.position).shown,
        (placeOf text.toList d.position).lead ++ ['^']] := by
  obtain ⟨before, after, isLine⟩ := isLine_placeOf text.toList d.position
  refine ⟨_, if_pos fits, ?_⟩
  generalize placeOf text.toList d.position = place at isLine ⊢
  have separate : ∀ line ∈ [d.heading.toList, place.bar, place.shown, place.lead ++ ['^']],
      '\n' ∉ line := by
    intro line member
    simp only [List.mem_cons, List.not_mem_nil, or_false] at member
    rcases member with rfl | rfl | rfl | rfl
    · exact not_mem_heading plain
    · exact place.not_mem_bar
    · exact Place.not_mem_shown isLine
    · simp [place.not_mem_lead]
  rw [← List.splitOn_intercalate '\n' separate (List.cons_ne_nil _ _)]
  simp [Place.bar, Place.shown, Place.lead, Place.digits, List.intercalate, repeated, Decimal.ofNat]

/-- A drawing has four lines, of which the last ends in its only caret. Where the diagnostic is about
a character, the caret is below it and its line has its number; at the end of the input the caret is
just after the line of the last visible character. -/
theorem render_points (text : String) (d : Diagnostic) (arises : d.Arises text)
    (fits : caretWidth (placeOf text.toList d.position) ≤ 65535) :
    ∃ drawing heading bar shown lead,
      d.render text = .ok drawing ∧
      drawing.toList.splitOn '\n' = [heading, bar, shown, lead ++ ['^']] ∧ '^' ∉ lead ∧
      d.position ≤ text.length ∧
      (d.position < text.length →
        shown[lead.length]? = text.toList[d.position]? ∧
        (toString (1 + (text.toList.take d.position).count '\n')).toList ++ " | ".toList <+: shown) ∧
      (d.position = text.length →
        lead.length = shown.length ∧
        ((∀ c ∈ text.toList, isBlank c = true) → shown = "1 | ".toList) ∧
        ∀ last c, text.toList[last]? = some c → isBlank c = false →
          (∀ c ∈ text.toList.drop (last + 1), isBlank c = true) →
          ∃ place before after, Stands text.toList last place before after ∧
            shown = (toString place.number).toList ++ " | ".toList ++ shownLine place) := by
  have apt := arises.apt
  rw [← String.length_toList]
  obtain ⟨drawing, drawn, lines⟩ := splitOn_render apt.plain fits
  refine ⟨drawing, _, _, _, _, drawn, lines, (Place.not_mem_lead _).2, apt.within, ?_, ?_⟩
  · intro inside
    have here := List.getElem?_eq_getElem inside
    rw [here]
    exact Place.shown_of_visible here (apt.visible _ here)
  · intro ended
    have past := Nat.le_of_eq ended.symm
    refine ⟨Place.length_lead_of_end past, Place.shown_of_blank past, ?_⟩
    intro last c here visible blank
    exact Place.shown_of_last past here visible blank

/-- The caret is below the stray character of the second line, whose indentation is cut off. After an
open parenthesis it is past the line that was left open, although blank lines follow. -/
theorem render_points_indented :
    (∃ drawing heading bar shown lead,
      (⟨.trailingInput '$', 9⟩ : Diagnostic).render "1 +\n  \t7 $ 2 \n" = .ok drawing ∧
      drawing.toList.splitOn '\n' = [heading, bar, shown, lead ++ ['^']] ∧
      shown[lead.length]? = some '$' ∧ "2 | ".toList <+: shown) ∧
    ∃ drawing heading bar shown lead,
      (⟨.unexpectedCharacter ')' none, 13⟩ : Diagnostic).render "\n\t (1 + 2 \n \n" = .ok drawing ∧
      drawing.toList.splitOn '\n' = [heading, bar, shown, lead ++ ['^']] ∧
      lead.length = shown.length := by
  constructor
  · obtain ⟨drawing, heading, bar, shown, lead, drawn, lines, _, _, inside, _⟩ :=
      render_points "1 +\n  \t7 $ 2 \n" ⟨.trailingInput '$', 9⟩ (.inl (by decide +kernel)) (by decide)
    obtain ⟨below, number⟩ := inside (by decide)
    exact ⟨drawing, heading, bar, shown, lead, drawn, lines, below, number⟩
  · obtain ⟨drawing, heading, bar, shown, lead, drawn, lines, _, _, _, ended⟩ :=
      render_points "\n\t (1 + 2 \n \n" ⟨.unexpectedCharacter ')' none, 13⟩
        (.inl (by decide +kernel)) (by decide)
    exact ⟨drawing, heading, bar, shown, lead, drawn, lines, (ended (by decide)).1⟩

end Diagnostic

end Reckoner
