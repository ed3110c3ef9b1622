import Reckoner.Expr.Postorder
import Reckoner.Proofs.Failure
import Reckoner.Proofs.Unread

/-! The first malformed character fails the parse. What stands before the position of a diagnostic
can still become an expression: a factor is put where one is due and the open parentheses are
closed. With the offending part it no longer can, however the text goes on. -/
namespace Reckoner

/-- Some text that begins so is read. -/
def Text.Viable (front : List Char) : Prop :=
  ∃ suffix e, Parser.parseText (String.ofList (front ++ suffix)) = .ok e

theorem Text.tokens_append_closings (cs : List Char) (n : Nat) :
    tokens (cs ++ List.replicate n ')') = tokens cs ++ List.replicate n (.mark ')') := by
  induction n generalizing cs with
  | zero => simp
  | succ n ih =>
    have closings := ih []
    rw [List.nil_append, tokens_nil, List.nil_append] at closings
    rw [List.replicate_succ, tokens_append (by decide) (by decide),
      tokens_mark (by decide) (by decide) (by decide), closings, List.replicate_succ]

theorem Derives.viable {cs : List Char} {more : List Char} {shape : Shape} {depth : Nat}
    (h : Derives (.chain .additive) (Text.tokens (cs ++ more)) shape depth)
    (within : depth ≤ nestingLimit) : Text.Viable cs := by
  rw [← String.toList_ofList (l := cs ++ more)] at h
  obtain ⟨e, read, _⟩ := h.parseText within
  exact ⟨more, e, read⟩

theorem Awaits.viable {ts fill : List Token} {left depth : Nat} {shape : Shape}
    (awaits : Awaits (.chain .additive) nestingLimit ts left)
    (factor : Derives .factor fill shape depth) (fits : depth ≤ left) {cs : List Char}
    (more : List Char) (met : Text.tokens (cs ++ more) = ts ++ fill) : Text.Viable cs := by
  obtain ⟨whole, deep, low, derived⟩ := awaits.completed factor fits
  rw [← met, ← Text.tokens_append_closings, List.append_assoc] at derived
  exact derived.viable low

open Scanner

variable {text : String} {s u rest : Scanner (List Char)} {left : Nat}
  {result : Except Diagnostic Expr}

theorem Scanner.tokens_take {ts : List Token} (onward : (ofText text).Onward s)
    (settled : s.Settled) (whole : s.lexemes <:+ (ofText text).lexemes)
    (met : (ofText text).tokens = ts ++ s.tokens) :
    Text.tokens (text.toList.take s.position) = ts := by
  cases present : s.lookahead with
  | none =>
    have ended := ((along_ofText text).onward onward).position_of_end present
    rw [tokens_of_none present, List.append_nil, tokens_ofText] at met
    rw [ended, List.take_length, met]
  | some c =>
    obtain ⟨x, later, first, starts⟩ := exists_lexeme settled present
    obtain ⟨before, split⟩ := whole
    have cut : Text.tokens (text.toList.take s.position) = before.map Lexeme.token := by
      rw [first, lexemes_ofText] at split
      rw [← starts]
      exact Text.tokens_take split.symm
    rw [cut]
    rw [← map_token_lexemes, ← map_token_lexemes, ← split, List.map_append] at met
    exact List.append_cancel_right met

theorem Leads.viable (path : Leads (.chain .additive) nestingLimit (ofText text) left u) :
    Text.Viable (text.toList.take u.position) := by
  have settled := settled_ofText text
  obtain ⟨ts, met, awaits⟩ := path.awaits settled
  have cut := tokens_take path.onward (path.settled settled) (path.lexemes settled) met
  have one : Derives .factor [.literal ['1']] _ 0 := .literal (by decide)
  -- The blank keeps the literal apart from a token that the text may end with.
  refine awaits.viable one (Nat.zero_le left) [' ', '1'] ?_
  rw [Text.tokens_append (by decide) (by decide), cut]
  have last : Text.tokens [' ', '1'] = [.literal ['1']] := by decide +kernel
  rw [last]

theorem Leads.viable_of_unclosed {room : Nat} {e : Expr}
    (path : Leads (.chain .additive) nestingLimit (ofText text) (room + 1) u)
    (present : u.lookahead = some '(')
    (inner : Descent (.chain .additive) room u.skip (.ok e) rest)
    (missing : rest.lookahead ≠ some ')') : Text.Viable (text.toList.take rest.position) := by
  have settled := settled_ofText text
  have descent := path.fails (.unclosed present inner missing)
  obtain ⟨ts, met, awaits⟩ := path.awaits settled
  obtain ⟨inside, depth, low, derived, after⟩ := inner.derives (settled_skip u) rfl
  have opening := tokens_of_mark (path.settled settled) present (by decide) (by decide)
  rw [opening, after] at met
  have cut : Text.tokens (text.toList.take rest.position) = ts ++ .mark '(' :: inside :=
    tokens_take descent.onward (descent.settled settled) (descent.lexemes settled) (by simp [met])
  refine awaits.viable (.group derived) (Nat.succ_le_succ low) [')'] ?_
  rw [Text.tokens_append (by decide) (by decide), cut]
  have last : Text.tokens [')'] = [.mark ')'] := by decide +kernel
  simp [last]

theorem Descent.viable {e : Expr}
    (h : Descent (.chain .additive) nestingLimit (ofText text) (.ok e) rest) :
    Text.Viable (text.toList.take rest.position) := by
  have settled := settled_ofText text
  obtain ⟨ts, depth, low, derived, met⟩ := h.derives settled rfl
  have cut := tokens_take h.onward (h.settled settled) (h.lexemes settled) met
  rw [← cut, ← List.append_nil (text.toList.take rest.position)] at derived
  exact derived.viable low

/-- A text cut beyond a scanner and continued anyhow is parsed in step with the text, as far as to
that scanner. -/
theorem Scanner.twin_of_onward (onward : (ofText text).Onward s) {n : Nat} (before : s.position < n)
    (within : n ≤ text.toList.length) (suffix : List Char) :
    s.Short (text.toList.drop n) ∧
      Twin (text.toList.drop n) suffix (ofText text)
        (ofText (String.ofList (text.toList.take n ++ suffix))) := by
  have later : s.Short (text.toList.drop n) := by
    rw [Short, ((along_ofText text).onward onward).upcoming, List.length_drop, List.length_drop]
    omega
  have nonempty : text.toList.take n ≠ [] := by
    intro empty
    have none := congrArg List.length empty
    rw [List.length_take, List.length_nil] at none
    omega
  have same : String.ofList (text.toList.take n ++ text.toList.drop n) = text := by simp
  have start := twin_ofText (text.toList.drop n) suffix nonempty
  rw [same] at start
  exact ⟨later, start (later.of_onward onward)⟩

theorem Descent.not_viable {c : Char}
    (h : Descent (.chain .additive) nestingLimit (ofText text) result rest)
    (present : rest.lookahead = some c) :
    ¬Text.Viable (text.toList.take (rest.position + 1)) := by
  rintro ⟨suffix, e, read⟩
  have inside := ((along_ofText text).onward h.onward).position_lt present
  obtain ⟨later, start⟩ := twin_of_onward h.onward (Nat.lt_succ_self _) inside suffix
  obtain ⟨other, last, like, agree, after⟩ := (Twin.lockstep _ _).descent h later start
  -- The texts part only after the character, so it is left over there too.
  cases agree with
  | ok =>
    have refused := Parser.parseComplete_of_trailing like (after.lookahead.symm.trans present)
    exact absurd (read.symm.trans refused) (by simp)
  | error =>
    have refused := Parser.parseComplete_of_descent_error like
    exact absurd (read.symm.trans refused) (by simp)

/-- A literal that is too large stays too large with more digits after it. -/
theorem Leads.not_viable {c : Char}
    (path : Leads (.chain .additive) nestingLimit (ofText text) left u)
    (present : u.lookahead = some c) (other : Text.isLetter c = false) (digit : c.isDigit = true)
    (exceeds : 2 ^ 63 - 1 < Nat.ofDigitChars 10 (u.upcoming.takeWhile Char.isDigit) 0) :
    u.position + (u.upcoming.takeWhile Char.isDigit).length ≤ text.length ∧
    ¬Text.Viable
      (text.toList.take (u.position + (u.upcoming.takeWhile Char.isDigit).length)) := by
  have after : (u.takeWhile Char.isDigit).2.Along text.toList :=
    (along_ofText text).onward (path.onward.trans (.takeFrom ..))
  have within := after.within
  have reaches := after.upcoming
  rw [position_takeWhile] at within reaches
  rw [upcoming_takeWhile] at reaches
  have positive : 0 < (u.upcoming.takeWhile Char.isDigit).length := by
    rw [upcoming_of_some present]
    simp [digit]
  refine ⟨by rwa [← String.length_toList], ?_⟩
  rintro ⟨suffix, e, read⟩
  obtain ⟨later, start⟩ :=
    twin_of_onward path.onward (Nat.lt_add_of_pos_right positive) within suffix
  obtain ⟨v, like, twin⟩ := (Twin.lockstep _ _).leads path later start
  -- The texts part right after the literal, and the other one may go on with digits.
  have longer := Decimal.ofDigitChars_le_of_isPrefix (twin.isPrefix_run reaches)
  have factor : Descent .factor left v _ _ :=
    .tooLarge (twin.lookahead.symm.trans present) other digit
      (integer_of_exceeds (Nat.lt_of_lt_of_le exceeds longer))
  have refused := Parser.parseComplete_of_descent_error (like.fails factor)
  exact absurd (read.symm.trans refused) (by simp)

theorem Descent.stops (h : Descent (.chain .additive) nestingLimit (ofText text) result rest) :
    match rest.lookahead with
    | some _ => rest.position < text.length ∧
        ¬Text.Viable (text.toList.take (rest.position + 1))
    | none => rest.position = text.length := by
  have along := (along_ofText text).onward h.onward
  rw [← String.length_toList]
  split
  · next c present => exact ⟨along.position_lt present, h.not_viable present⟩
  · next absent => exact along.position_of_end absent

/-- A text is refused at the first place where nothing can save it. Up to the position of the
diagnostic it can be completed. With the character there, or with the whole literal if that is too
large, it no longer can. If a character is missing, it is because the text is over. -/
theorem parseText_error_viable (text : String) (diagnostic : Diagnostic)
    (refused : Parser.parseText text = .error diagnostic) :
    Text.Viable (text.toList.take diagnostic.position) ∧
    match diagnostic.fault with
    | .trailingInput _ | .nestingTooDeep _ | .expectedFactor (some _)
    | .unexpectedCharacter _ (some _) =>
      diagnostic.position < text.length ∧
        ¬Text.Viable (text.toList.take (diagnostic.position + 1))
    | .numberTooLarge token =>
      diagnostic.position + token.length ≤ text.length ∧
        ¬Text.Viable (text.toList.take (diagnostic.position + token.length))
    | .expectedFactor none | .unexpectedCharacter _ none => diagnostic.position = text.length
    | .divisionByZero | .overflow _ => False := by
  rcases Parser.of_parseComplete_error refused with
    ⟨rest, descent⟩ | ⟨e, rest, c, descent, present, rfl⟩
  · have stops := descent.stops
    obtain ⟨left, u, path, cause⟩ := descent.refused rfl
    cases cause with
    | tooLarge present other digit exceeds =>
      obtain rfl := of_integer_error exceeds
      refine ⟨path.viable, ?_⟩
      have doomed := path.not_viable present other digit (exceeds_of_integer_error exceeds)
      simpa using doomed
    | noFactor =>
      refine ⟨path.viable, ?_⟩
      cases present : rest.lookahead <;> simpa [present] using stops
    | tooDeep present =>
      refine ⟨path.viable, ?_⟩
      simpa [present] using stops
    | unclosed present inner missing =>
      refine ⟨path.viable_of_unclosed present inner missing, ?_⟩
      cases present : rest.lookahead <;> simpa [present] using stops
  · have stops := descent.stops
    refine ⟨descent.viable, ?_⟩
    simpa [present] using stops

/-- After `(1+ ` a number may follow. One that does not fit cannot, with or without more digits. -/
theorem parseText_error_viable_literal :
    Parser.parseText "(1+ 9223372036854775808" =
      .error ⟨.numberTooLarge "9223372036854775808", 4⟩ ∧
    Text.Viable "(1+ ".toList ∧ ¬Text.Viable "(1+ 9223372036854775808".toList := by
  have refused : Parser.parseText "(1+ 9223372036854775808" =
      .error ⟨.numberTooLarge "9223372036854775808", 4⟩ := by decide +kernel
  obtain ⟨viable, _, doomed⟩ := parseText_error_viable _ _ refused
  exact ⟨refused, viable, doomed⟩

end Reckoner
