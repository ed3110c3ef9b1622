import Reckoner.CommandLine.Report
import Reckoner.Proofs.Captures
import Reckoner.Proofs.Dependence
import Reckoner.Proofs.LastBinding
import Reckoner.Proofs.RoundTrip

/-! Bindings given as arguments. `Written` says what the form `NAME=VALUE` is, and it is what the
pattern matches (`matches_pattern_iff`). An argument is of the form in at most one way, so whatever
engine captures, every argument of the form is accepted or refused for its range alone, and any
other is refused for its form (`parse_of_written`, `parse_of_not_written`). The name of an accepted
argument is an identifier of the expression language too, although arguments know only ASCII, so a
binding takes effect wherever its name is used. -/
namespace Reckoner

theorem Expr.eq_symbol_of_shape {e : Expr} {name : String} (h : e.shape = .symbol name) :
    ∃ span, e = .symbol name span := by
  cases e with
  | symbol other span => exact ⟨span, by rw [Shape.symbol.inj h]⟩
  | number | binary => contradiction

namespace Text.Ranges

variable {first last point : Nat} {rest : Ranges}

theorem holds_first (low : first ≤ point) (high : point ≤ last) :
    holds ((first, last) :: rest) point = true := by
  simp [holds, Nat.not_lt.mpr low, high]

theorem holds_later (low : first ≤ point) (later : holds rest point = true) :
    holds ((first, last) :: rest) point = true := by
  simp [holds, Nat.not_lt.mpr low, later]

end Text.Ranges

/-- An identifier is read as the symbol that it names. -/
theorem parseText_of_isIdentifier {name : String} (h : Text.IsIdentifier name.toList) :
    ∃ span, Parser.parseText name = .ok (.symbol name span) := by
  have derived := (Derives.word name.toList).factor_chain .additive
  rw [String.ofList_toList, ← Text.tokens_identifier h] at derived
  obtain ⟨e, read, shape⟩ := derived.parseText (Nat.zero_le _)
  obtain ⟨span, rfl⟩ := Expr.eq_symbol_of_shape shape
  exact ⟨span, read⟩

namespace CommandLine

namespace Binding

/-- The letters and the digits of ASCII. -/
def Letter (c : Char) : Prop := 'A' ≤ c ∧ c ≤ 'Z' ∨ 'a' ≤ c ∧ c ≤ 'z'
def Digit (c : Char) : Prop := '0' ≤ c ∧ c ≤ '9'

instance (c : Char) : Decidable (Letter c) := inferInstanceAs (Decidable (_ ∨ _))
instance (c : Char) : Decidable (Digit c) := inferInstanceAs (Decidable (_ ∧ _))

def Name (cs : List Char) : Prop :=
  ∃ first rest, cs = first :: rest ∧ Letter first ∧ ∀ c ∈ rest, Letter c ∨ Digit c

def sign (negative : Bool) : List Char := if negative then ['-'] else []

/-- The number that a sign and digits stand for. -/
def signed (negative : Bool) (digits : List Char) : Int :=
  if negative then -Nat.ofDigitChars 10 digits 0 else Nat.ofDigitChars 10 digits 0

/-- An argument of the form `NAME=VALUE`, by its parts. -/
structure Written (argument name : String) (negative : Bool) (digits : List Char) : Prop where
  parts : argument.toList = name.toList ++ '=' :: (sign negative ++ digits)
  name : Name name.toList
  nonempty : digits ≠ []
  digits : ∀ c ∈ digits, Digit c

theorem has_letters_iff {c : Char} : letters.Has c ↔ Letter c := by
  simp [letters, Text.Intervals.Has, Letter]

theorem has_digits_iff {c : Char} : digits.Has c ↔ Digit c := by
  simp [digits, Text.Intervals.Has, Digit]

theorem has_letters_digits_iff {c : Char} : (letters ++ digits).Has c ↔ Letter c ∨ Digit c := by
  simp [letters, digits, Text.Intervals.Has, Letter, Digit, or_assoc]

theorem has_single_iff {c d : Char} : Text.Intervals.Has [(d, d)] c ↔ c = d := by
  constructor
  · intro has
    obtain ⟨low, high⟩ : d ≤ c ∧ c ≤ d := by simpa [Text.Intervals.Has] using has
    exact Char.le_antisymm high low
  · rintro rfl
    simp [Text.Intervals.Has]

theorem isLetter_of_letter {c : Char} (letter : Letter c) : Text.isLetter c = true := by
  have bounds : 65 ≤ c.toNat ∧ c.toNat ≤ 90 ∨ 97 ≤ c.toNat ∧ c.toNat ≤ 122 := letter
  rcases bounds with ⟨low, high⟩ | ⟨low, high⟩
  · exact Text.Ranges.holds_first low high
  · exact Text.Ranges.holds_later (by omega) (Text.Ranges.holds_first low high)

theorem isNumeric_of_digit {c : Char} (digit : Digit c) : Text.isNumeric c = true :=
  Text.Ranges.holds_first digit.1 digit.2

theorem isIdentifier_of_name {cs : List Char} (h : Name cs) : Text.IsIdentifier cs := by
  obtain ⟨first, rest, rfl, letter, others⟩ := h
  refine ⟨first, rest, rfl, isLetter_of_letter letter, ?_⟩
  intro c member
  rw [Text.isLetterOrNumeric, Bool.or_eq_true]
  exact (others c member).imp isLetter_of_letter isNumeric_of_digit

theorem ne_equals_of_name {cs : List Char} (h : Name cs) : ∀ c ∈ cs, c ≠ '=' := by
  have apart {c : Char} (inner : Letter c ∨ Digit c) : c ≠ '=' := by
    rintro rfl
    revert inner
    decide
  obtain ⟨first, rest, rfl, letter, others⟩ := h
  intro c member
  rcases List.mem_cons.mp member with rfl | member
  · exact apart (.inl letter)
  · exact apart (others c member)

section Literal

variable {negative : Bool} {digits : List Char}

theorem magnitude_sign (all : ∀ c ∈ digits, Digit c) :
    magnitude (sign negative ++ digits) = (negative, digits) := by
  cases negative with
  | true => rfl
  | false =>
    cases digits with
    | nil => rfl
    | cons c cs =>
      have other : c ≠ '-' := by
        rintro rfl
        exact absurd (all '-' (List.mem_cons_self ..)) (by decide)
      rw [sign, if_neg (by decide), List.nil_append, magnitude]
      rintro _ ⟨⟩
      exact other rfl

theorem literalValue?_sign (all : ∀ c ∈ digits, Digit c) :
    literalValue? (sign negative ++ digits) = Word.ofInt? (signed negative digits) := by
  rw [literalValue?, magnitude_sign all]
  cases negative with
  | true => exact Word.ofNegatedDigits?_eq digits
  | false => exact Word.ofDigits?_eq digits

end Literal

section Matches

open Text (Pattern Quantifier)

variable {before piece after : List Char} {groups : List (List Char)}

theorem matches_namePattern_iff :
    namePattern.Matches before piece after groups ↔ Name piece ∧ groups = [] := by
  simp only [namePattern, Pattern.matches_seq_iff, Pattern.matches_run_iff, Quantifier.Allows,
    has_letters_iff, has_letters_digits_iff, List.length_eq_one_iff]
  constructor
  · rintro ⟨front, rest, _, _, rfl, rfl, ⟨letter, ⟨first, rfl⟩, rfl⟩, others, _, rfl⟩
    exact ⟨⟨first, rest, rfl, letter first (List.mem_singleton_self _), others⟩, rfl⟩
  · rintro ⟨⟨first, rest, rfl, letter, others⟩, rfl⟩
    exact ⟨[first], rest, [], [], rfl, rfl, ⟨by simpa using letter, ⟨first, rfl⟩, rfl⟩, others,
      trivial, rfl⟩

theorem matches_literalPattern_iff :
    literalPattern.Matches before piece after groups ↔
      (∃ negative digits, piece = sign negative ++ digits ∧ digits ≠ [] ∧
        ∀ c ∈ digits, Digit c) ∧ groups = [] := by
  simp only [literalPattern, Pattern.matches_seq_iff, Pattern.matches_run_iff, Quantifier.Allows,
    has_digits_iff, has_single_iff]
  constructor
  · rintro ⟨front, rest, _, _, rfl, rfl, ⟨minus, short, rfl⟩, all, nonempty, rfl⟩
    refine ⟨⟨!front.isEmpty, rest, ?_, List.length_pos_iff.mp nonempty, all⟩, rfl⟩
    rcases front with _ | ⟨c, _ | ⟨d, more⟩⟩
    · rfl
    · rw [minus c (List.mem_singleton_self _)]
      rfl
    · simp at short
  · rintro ⟨⟨negative, digits, rfl, nonempty, all⟩, rfl⟩
    refine ⟨sign negative, digits, [], [], rfl, rfl, ⟨?_, ?_, rfl⟩, all,
      List.length_pos_iff.mpr nonempty, rfl⟩
    · cases negative <;> simp [sign]
    · cases negative <;> simp [sign]

/-- The pattern matches a whole text of the form and captures its two parts. -/
theorem matches_pattern_iff :
    pattern.Matches before piece after groups ↔ before = [] ∧ after = [] ∧
      ∃ name literal, piece = name ++ '=' :: literal ∧ groups = [name, literal] ∧ Name name ∧
        ∃ negative digits, literal = sign negative ++ digits ∧ digits ≠ [] ∧
          ∀ c ∈ digits, Digit c := by
  simp only [pattern, Pattern.matches_seq_iff, Pattern.matches_start_iff, Pattern.matches_stop_iff,
    Pattern.matches_group_iff, Pattern.matches_run_iff, Quantifier.Allows, has_single_iff,
    matches_namePattern_iff, matches_literalPattern_iff, List.length_eq_one_iff]
  constructor
  · rintro ⟨_, _, _, _, rfl, rfl, ⟨rfl, rfl, rfl⟩, name, _, _, _, rfl, rfl, ⟨_, rfl, named, rfl⟩,
      _, _, _, _, rfl, rfl, ⟨equals, ⟨c, rfl⟩, rfl⟩, literal, _, _, _, rfl, rfl,
      ⟨_, rfl, written, rfl⟩, rfl, rfl, rfl⟩
    have same : c = '=' := equals c (List.mem_singleton_self _)
    exact ⟨rfl, rfl, name, literal, by simp [same], by simp, named, written⟩
  · rintro ⟨rfl, rfl, name, literal, rfl, rfl, named, written⟩
    exact ⟨[], _, [], _, rfl, rfl, ⟨rfl, rfl, rfl⟩, name, '=' :: literal, [name], [literal], rfl, rfl,
      ⟨[], rfl, named, rfl⟩, ['='], literal, [], [literal], rfl, rfl,
      ⟨by simp, ⟨'=', rfl⟩, rfl⟩, literal, [], [literal], [], by simp, rfl,
      ⟨[], rfl, written, rfl⟩, rfl, rfl, rfl⟩

end Matches

section Parse

variable {argument name : String} {negative : Bool} {digits : List Char}

theorem Written.split (h : Written argument name negative digits) :
    argument.toList.takeWhile (· ≠ '=') = name.toList ∧
      argument.toList.dropWhile (· ≠ '=') = '=' :: (sign negative ++ digits) := by
  have inside : ∀ c ∈ name.toList, decide (c ≠ '=') = true := by
    simpa using ne_equals_of_name h.name
  rw [h.parts]
  constructor
  · rw [Text.takeWhile_append_stop (by decide), List.takeWhile_eq_self_iff.mpr inside]
  · rw [Text.dropWhile_append_stop (by decide), List.dropWhile_eq_nil_iff.mpr inside]
    rfl

theorem Written.unique {other : String} {minus : Bool} {more : List Char}
    (first : Written argument name negative digits) (second : Written argument other minus more) :
    name = other ∧ sign negative ++ digits = sign minus ++ more := by
  obtain ⟨front, back⟩ := first.split
  obtain ⟨front', back'⟩ := second.split
  exact ⟨String.toList_inj.mp (front.symm.trans front'),
    (List.cons.inj (back.symm.trans back')).2⟩

variable {captures : Text.Pattern.Engine} (lawful : Text.Pattern.Lawful captures)

include lawful

theorem written_of_captures {found : List String} (h : captures pattern argument = some found) :
    ∃ name negative digits, Written argument name negative digits ∧
      found = [argument, name, String.ofList (sign negative ++ digits)] := by
  obtain ⟨before, piece, after, groups, split, matched, rfl⟩ := lawful.sound h
  obtain ⟨rfl, rfl, name, literal, rfl, rfl, named, negative, digits, rfl, nonempty, all⟩ :=
    matches_pattern_iff.mp matched
  rw [List.nil_append, List.append_nil] at split
  refine ⟨String.ofList name, negative, digits, ⟨?_, ?_, nonempty, all⟩, ?_⟩
  · rw [split, String.toList_ofList]
  · rwa [String.toList_ofList]
  · rw [← split]
    simp

theorem captures_of_written (h : Written argument name negative digits) :
    captures pattern argument =
      some [argument, name, String.ofList (sign negative ++ digits)] := by
  cases met : captures pattern argument with
  | none =>
    have matched : pattern.Matches [] argument.toList []
        [name.toList, sign negative ++ digits] :=
      matches_pattern_iff.mpr ⟨rfl, rfl, _, _, h.parts, rfl, h.name, negative, digits, rfl,
        h.nonempty, h.digits⟩
    exact absurd matched (lawful.complete met (by simp))
  | some found =>
    obtain ⟨other, minus, more, written, rfl⟩ := written_of_captures lawful met
    obtain ⟨rfl, same⟩ := h.unique written
    rw [same]

/-- An argument of the form is accepted if its number fits in a word, and refused for its range if
not. -/
theorem parse_of_written (h : Written argument name negative digits) :
    parse captures argument = match Word.ofInt? (signed negative digits) with
      | some value => .ok ⟨name, value⟩
      | none => .error (.range (String.ofList (sign negative ++ digits))) := by
  cases value : Word.ofInt? (signed negative digits) <;>
    simp [parse, captures_of_written lawful h, literalValue?_sign h.digits, value]

theorem parse_of_not_written (h : ¬∃ name negative digits, Written argument name negative digits) :
    parse captures argument = .error (.form argument) := by
  cases met : captures pattern argument with
  | none => rw [parse, met]
  | some found =>
    obtain ⟨name, negative, digits, written, _⟩ := written_of_captures lawful met
    exact absurd ⟨name, negative, digits, written⟩ h

omit lawful

/-- What an argument may be answered with. -/
inductive Judged (argument : String) : Except Misbinding Binding → Prop where
  | accepted {name : String} {negative : Bool} {digits : List Char} {value : Int64}
      (written : Written argument name negative digits)
      (same : signed negative digits = value.toInt) : Judged argument (.ok ⟨name, value⟩)
  | outside {name : String} {negative : Bool} {digits : List Char}
      (written : Written argument name negative digits)
      (outside : ¬Word.Fits (signed negative digits)) :
      Judged argument (.error (.range (String.ofList (sign negative ++ digits))))
  | malformed (none : ¬∃ name negative digits, Written argument name negative digits) :
      Judged argument (.error (.form argument))

include lawful

theorem judged_parse (argument : String) : Judged argument (parse captures argument) := by
  by_cases form : ∃ name negative digits, Written argument name negative digits
  · obtain ⟨name, negative, digits, written⟩ := form
    rw [parse_of_written lawful written]
    split
    · next found => exact .accepted written ((Word.ofInt?_eq_some_iff _ _).mp found)
    · next none => exact .outside written ((Word.ofInt?_eq_none_iff _).mp none)
  · rw [parse_of_not_written lawful form]
    exact .malformed form

theorem parse_eq_ok_iff {value : Int64} :
    parse captures argument = .ok ⟨name, value⟩ ↔
      ∃ negative digits, Written argument name negative digits ∧
        signed negative digits = value.toInt := by
  constructor
  · intro accepted
    have judged := judged_parse lawful argument
    rw [accepted] at judged
    cases judged with
    | accepted written same => exact ⟨_, _, written, same⟩
  · rintro ⟨negative, digits, written, same⟩
    rw [parse_of_written lawful written, (Word.ofInt?_eq_some_iff _ _).mpr same]

theorem parse_eq_range_iff {literal : String} :
    parse captures argument = .error (.range literal) ↔
      ∃ name negative digits, Written argument name negative digits ∧
        literal = String.ofList (sign negative ++ digits) ∧ ¬Word.Fits (signed negative digits) := by
  constructor
  · intro refused
    have judged := judged_parse lawful argument
    rw [refused] at judged
    cases judged with
    | outside written outside => exact ⟨_, _, _, written, rfl, outside⟩
  · rintro ⟨name, negative, digits, written, rfl, outside⟩
    rw [parse_of_written lawful written, (Word.ofInt?_eq_none_iff _).mpr outside]

theorem not_written_of_form (refused : parse captures argument = .error (.form argument)) :
    ¬∃ name negative digits, Written argument name negative digits := by
  have judged := judged_parse lawful argument
  rw [refused] at judged
  cases judged with
  | malformed none => exact none

end Parse

end Binding

/-- What is wrong can be told from the message: its last letters differ. -/
theorem Misbinding.message_form_ne (argument literal : String) :
    (form argument).message ≠ (range literal).message := by
  intro same
  have last := congrArg (fun text => text.toList.getLast?) same
  simp [message, List.getLast?_cons, List.getLast?_append] at last

theorem Misbinding.message_injective {first second : Misbinding}
    (same : first.message = second.message) : first = second := by
  cases first with
  | form a =>
    cases second with
    | form b => simpa [message] using same
    | range b => exact absurd same (message_form_ne a b)
  | range a =>
    cases second with
    | form b => exact absurd same.symm (message_form_ne b a)
    | range b => simpa [message] using same

namespace Binding

variable {captures : Text.Pattern.Engine} (lawful : Text.Pattern.Lawful captures)

include lawful

theorem name_of_parse {argument : String} {binding : Binding}
    (accepted : parse captures argument = .ok binding) : Name binding.name.toList := by
  obtain ⟨negative, digits, written, _⟩ := (parse_eq_ok_iff lawful).mp accepted
  exact written.name

theorem name_of_accepted {arguments : List String} {bindings : List Binding}
    (accepted : List.Forall₂ (fun argument binding => parse captures argument = .ok binding)
      arguments bindings) : ∀ binding ∈ bindings, Name binding.name.toList := by
  induction accepted with
  | nil => simp
  | cons first _ ih => exact List.forall_mem_cons.mpr ⟨name_of_parse lawful first, ih⟩

end Binding

theorem lookup_environmentOf (bindings : List Binding) (name : String) :
    (environmentOf bindings).lookup name =
      (((bindings.filter fun binding => binding.name = name).getLast?).map Binding.value).getD 0 := by
  rw [environmentOf, Environment.lookup, Environment.get?_ofList, Environment.lastValue?]
  simp [List.filter_map, Function.comp_def]

/-- The name of a binding is read as a symbol, and the symbol has the value of the last binding with
that name. -/
theorem eval_environmentOf {bindings : List Binding} {binding : Binding} (member : binding ∈ bindings)
    (named : Binding.Name binding.name.toList) :
    ∃ last span, (bindings.filter fun other => other.name = binding.name).getLast? = some last ∧
      Parser.parseText binding.name = .ok (.symbol binding.name span) ∧
      (Expr.symbol binding.name span).eval (environmentOf bindings) = .ok last.value := by
  have nonempty : bindings.filter (fun other => other.name = binding.name) ≠ [] :=
    List.ne_nil_of_mem (List.mem_filter.mpr ⟨member, by simp⟩)
  have final := List.getLast?_eq_some_getLast nonempty
  obtain ⟨span, read⟩ := parseText_of_isIdentifier (Binding.isIdentifier_of_name named)
  refine ⟨_, span, final, read, ?_⟩
  rw [Expr.eval_symbol, lookup_environmentOf, final]
  rfl

open Binding (Written sign signed) in
/-- Whatever engine captures, an argument is accepted exactly if it is of the form `NAME=VALUE` and
its value is an integer of 64 bits; the message of a refusal tells which of the two it lacks.
Accepted arguments, bound in turn, take effect: each name is a symbol, with the value of the last
argument that binds it. -/
theorem arguments_bind (captures : Text.Pattern.Engine) (lawful : Text.Pattern.Lawful captures) :
    (∀ argument name value, Binding.parse captures argument = .ok ⟨name, value⟩ ↔
      ∃ negative digits, Written argument name negative digits ∧
        (-2 ^ 63 ≤ signed negative digits ∧ signed negative digits ≤ 2 ^ 63 - 1) ∧
        value.toInt = signed negative digits) ∧
    (∀ argument, (∃ reason, Binding.parse captures argument = .error reason ∧
        reason.message = "`" ++ argument ++ "` is not of the form NAME=VALUE") ↔
      ¬∃ name negative digits, Written argument name negative digits) ∧
    (∀ argument literal, (∃ reason, Binding.parse captures argument = .error reason ∧
        reason.message = "`" ++ literal ++ "` does not fit in a 64-bit integer") ↔
      ∃ name negative digits, Written argument name negative digits ∧
        literal = String.ofList (sign negative ++ digits) ∧
        ¬(-2 ^ 63 ≤ signed negative digits ∧ signed negative digits ≤ 2 ^ 63 - 1)) ∧
    ∀ arguments bindings,
      List.Forall₂ (fun argument binding => Binding.parse captures argument = .ok binding)
        arguments bindings →
      ∀ binding ∈ bindings, ∃ last span,
        (bindings.filter fun other => other.name = binding.name).getLast? = some last ∧
        Parser.parseText binding.name = .ok (.symbol binding.name span) ∧
        (Expr.symbol binding.name span).eval (environmentOf bindings) = .ok last.value := by
  refine ⟨?_, ?_, ?_, ?_⟩
  · intro argument name value
    rw [Binding.parse_eq_ok_iff lawful]
    constructor
    · rintro ⟨negative, digits, written, same⟩
      exact ⟨negative, digits, written, same ▸ Word.fits_toInt value, same.symm⟩
    · rintro ⟨negative, digits, written, _, same⟩
      exact ⟨negative, digits, written, same.symm⟩
  · intro argument
    constructor
    · rintro ⟨reason, refused, told⟩
      have same : reason = .form argument := Misbinding.message_injective told
      subst same
      exact Binding.not_written_of_form lawful refused
    · intro none
      exact ⟨_, Binding.parse_of_not_written lawful none, rfl⟩
  · intro argument literal
    constructor
    · rintro ⟨reason, refused, told⟩
      have same : reason = .range literal := Misbinding.message_injective told
      subst same
      exact (Binding.parse_eq_range_iff lawful).mp refused
    · intro outside
      exact ⟨_, (Binding.parse_eq_range_iff lawful).mpr outside, rfl⟩
  · intro arguments bindings accepted binding member
    exact eval_environmentOf member (Binding.name_of_accepted lawful accepted binding member)

/-- A name is bound twice, first with leading zeros and then to the least integer. -/
theorem arguments_bind_least :
    let bindings : List Binding := [⟨"r2", 7⟩, ⟨"x", 0⟩, ⟨"r2", -9223372036854775808⟩]
    List.Forall₂ (fun argument binding =>
      Binding.parse Text.Pattern.captures argument = .ok binding)
      ["r2=007", "x=-0", "r2=-9223372036854775808"] bindings ∧
    ∃ span, Parser.parseText "r2" = .ok (.symbol "r2" span) ∧
      (Expr.symbol "r2" span).eval (environmentOf bindings) = .ok (-9223372036854775808) := by
  intro bindings
  have accepted : List.Forall₂ (fun argument binding =>
      Binding.parse Text.Pattern.captures argument = .ok binding)
      ["r2=007", "x=-0", "r2=-9223372036854775808"] bindings :=
    .cons (by decide +kernel) (.cons (by decide +kernel) (.cons (by decide +kernel) .nil))
  obtain ⟨last, span, final, read, value⟩ :=
    (arguments_bind Text.Pattern.captures Text.Pattern.lawful_captures).2.2.2 _ _ accepted
      ⟨"r2", 7⟩ (List.mem_cons_self ..)
  have latest : (bindings.filter fun other => other.name = "r2").getLast? =
      some ⟨"r2", -9223372036854775808⟩ := by decide
  obtain rfl := Option.some.inj (final.symm.trans latest)
  exact ⟨accepted, span, read, value⟩

end CommandLine

end Reckoner
