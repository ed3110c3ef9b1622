import Reckoner.Proofs.Lexemes

/-! Tokens without their places. `tokens` splits a text as `lexemes` does (`map_token_lexemes`), so
what is known of lexemes is known of tokens. What is true only without places is proved here: a
character that continues no token separates a text (`tokens_append`), and a text can be cut where a
lexeme starts without changing the tokens before the cut (`tokens_take`). -/
namespace Reckoner

namespace Text

/-- The longest token first. A character that starts neither a word nor a literal is a token by
itself. -/
def tokens : List Char → List Token
  | [] => []
  | c :: cs =>
    if isBlank c then tokens cs
    else if isLetter c then
      .word (c :: cs.takeWhile isLetterOrNumeric) :: tokens (cs.dropWhile isLetterOrNumeric)
    else if c.isDigit then
      .literal (c :: cs.takeWhile Char.isDigit) :: tokens (cs.dropWhile Char.isDigit)
    else .mark c :: tokens cs
termination_by cs => cs.length
decreasing_by
  all_goals simp only [List.length_cons]
  · omega
  · exact Nat.lt_succ_of_le (List.length_dropWhile_le _ _)
  · exact Nat.lt_succ_of_le (List.length_dropWhile_le _ _)
  · omega

/-- The same tokens, with places. -/
theorem map_token_lexemes (p : Nat) (cs : List Char) :
    (lexemes p cs).map Lexeme.token = tokens cs := by
  fun_induction lexemes p cs with
  | case1 => rw [tokens, List.map_nil]
  | case2 p c cs blank ih => rw [tokens, if_pos blank, ih]
  | case3 p c cs visible letter name ih =>
    rw [tokens, if_neg visible, if_pos letter, List.map_cons, ih]
  | case4 p c cs visible other digit digits ih =>
    rw [tokens, if_neg visible, if_neg other, if_pos digit, List.map_cons, ih]
  | case5 p c cs visible other plain ih =>
    rw [tokens, if_neg visible, if_neg other, if_neg plain, List.map_cons, ih]

theorem length_lexemes (p : Nat) (cs : List Char) :
    (lexemes p cs).length = (tokens cs).length := by
  rw [← map_token_lexemes p cs, List.length_map]

@[simp] theorem tokens_nil : tokens [] = [] := by
  rw [← map_token_lexemes 0, lexemes_nil, List.map_nil]

theorem tokens_blank {c : Char} (blank : isBlank c = true) (cs : List Char) :
    tokens (c :: cs) = tokens cs := by
  rw [← map_token_lexemes 0, lexemes_blank 0 cs blank, map_token_lexemes]

theorem tokens_word {c : Char} (visible : isBlank c = false) (letter : isLetter c = true)
    (cs : List Char) :
    tokens (c :: cs) =
      .word (c :: cs.takeWhile isLetterOrNumeric) :: tokens (cs.dropWhile isLetterOrNumeric) := by
  rw [← map_token_lexemes 0, lexemes_word 0 cs visible letter, List.map_cons, map_token_lexemes]

theorem tokens_literal {c : Char} (visible : isBlank c = false) (other : isLetter c = false)
    (digit : c.isDigit = true) (cs : List Char) :
    tokens (c :: cs) =
      .literal (c :: cs.takeWhile Char.isDigit) :: tokens (cs.dropWhile Char.isDigit) := by
  rw [← map_token_lexemes 0, lexemes_literal 0 cs visible other digit, List.map_cons,
    map_token_lexemes]

theorem tokens_mark {c : Char} (visible : isBlank c = false) (other : isLetter c = false)
    (plain : c.isDigit = false) (cs : List Char) : tokens (c :: cs) = .mark c :: tokens cs := by
  rw [← map_token_lexemes 0, lexemes_mark 0 cs visible other plain, List.map_cons,
    map_token_lexemes]

@[simp] theorem tokens_dropWhile_blank (cs : List Char) :
    tokens (cs.dropWhile isBlank) = tokens cs := by
  rw [← map_token_lexemes (0 + (cs.takeWhile isBlank).length), lexemes_dropWhile_blank,
    map_token_lexemes]

theorem takeWhile_append_stop {accept : Char → Bool} {c : Char} (stops : accept c = false)
    (cs ds : List Char) : (cs ++ c :: ds).takeWhile accept = cs.takeWhile accept := by
  induction cs with
  | nil => simp [stops]
  | cons d cs ih => simp only [List.cons_append, List.takeWhile_cons, ih]

theorem dropWhile_append_stop {accept : Char → Bool} {c : Char} (stops : accept c = false)
    (cs ds : List Char) : (cs ++ c :: ds).dropWhile accept = cs.dropWhile accept ++ c :: ds := by
  induction cs with
  | nil => simp [stops]
  | cons d cs ih =>
    simp only [List.cons_append, List.dropWhile_cons, ih]
    split <;> rfl

/-- Texts that start with a run of one class of characters and then end or go on with another
character are the same only if they have the same run and go on in the same way. -/
theorem append_inj_of_stop {accept : Char → Bool} {cs ds xs ys : List Char}
    (first : ∀ c ∈ cs, accept c = true) (second : ∀ c ∈ ds, accept c = true)
    (stops : ∀ c, xs.head? = some c → accept c = false)
    (ends : ∀ c, ys.head? = some c → accept c = false) (same : cs ++ xs = ds ++ ys) :
    cs = ds ∧ xs = ys := by
  have none {zs : List Char} (stops : ∀ c, zs.head? = some c → accept c = false) :
      zs.takeWhile accept = [] := by
    cases zs with
    | nil => rfl
    | cons z zs => rw [List.takeWhile_cons_of_neg (by simp [stops z rfl])]
  have runs := congrArg (List.takeWhile accept) same
  rw [List.takeWhile_append_of_pos first, List.takeWhile_append_of_pos second, none stops, none ends,
    List.append_nil, List.append_nil] at runs
  subst runs
  exact ⟨rfl, List.append_cancel_left same⟩

/-- A character that continues neither a word nor a literal separates tokens. -/
theorem tokens_append {c : Char} (word : isLetterOrNumeric c = false) (literal : c.isDigit = false)
    (cs ds : List Char) : tokens (cs ++ c :: ds) = tokens cs ++ tokens (c :: ds) := by
  fun_induction tokens cs with
  | case1 => rfl
  | case2 d cs blank ih => rw [List.cons_append, tokens_blank blank, ih]
  | case3 d cs visible letter ih =>
    rw [List.cons_append, tokens_word (by simpa using visible) letter,
      takeWhile_append_stop word, dropWhile_append_stop word, ih, List.cons_append]
  | case4 d cs visible other digit ih =>
    rw [List.cons_append, tokens_literal (by simpa using visible) (by simpa using other) digit,
      takeWhile_append_stop literal, dropWhile_append_stop literal, ih, List.cons_append]
  | case5 d cs visible other plain ih =>
    rw [List.cons_append, tokens_mark (by simpa using visible) (by simpa using other)
      (by simpa using plain), ih, List.cons_append]

/-- A letter and what may continue it, nothing else. -/
def IsIdentifier (cs : List Char) : Prop :=
  ∃ c rest, cs = c :: rest ∧ isLetter c = true ∧ ∀ d ∈ rest, isLetterOrNumeric d = true

theorem tokens_identifier {cs : List Char} (h : IsIdentifier cs) : tokens cs = [.word cs] := by
  obtain ⟨c, rest, rfl, letter, continues⟩ := h
  rw [tokens_word (isBlank_of_isLetter letter) letter, List.takeWhile_eq_self_iff.mpr continues,
    List.dropWhile_eq_nil_iff.mpr continues, tokens_nil]

theorem tokens_digits {cs : List Char} (nonempty : cs ≠ []) (all : ∀ c ∈ cs, c.isDigit = true) :
    tokens cs = [.literal cs] := by
  obtain ⟨c, rest, rfl⟩ := List.exists_cons_of_ne_nil nonempty
  have digit := all c (List.mem_cons_self ..)
  have others : ∀ d ∈ rest, d.isDigit = true := fun d member => all d (List.mem_cons_of_mem _ member)
  rw [tokens_literal (isBlank_of_isDigit digit) (isLetter_of_isDigit digit) digit,
    List.takeWhile_eq_self_iff.mpr others, List.dropWhile_eq_nil_iff.mpr others, tokens_nil]

theorem takeWhile_dropWhile_take (accept : Char → Bool) (n : Nat) (cs : List Char) :
    ((cs.dropWhile accept).take n).takeWhile accept = [] := by
  have first := List.head?_dropWhile_not accept cs
  cases left : cs.dropWhile accept with
  | nil => simp
  | cons d ds =>
    have refused : accept d = false := by simpa [left] using first
    cases n <;> simp [refused]

theorem take_run {accept : Char → Bool} {c : Char} {cs : List Char} {p q : Nat}
    (after : p + (c :: cs.takeWhile accept).length ≤ q) :
    ∃ ds, (c :: cs).take (q - p) = c :: ds ∧ ds.takeWhile accept = cs.takeWhile accept ∧
      ds.dropWhile accept =
        (cs.dropWhile accept).take (q - (p + (c :: cs.takeWhile accept).length)) := by
  have all : ∀ d ∈ cs.takeWhile accept, accept d = true := fun _ => List.mem_takeWhile_imp
  obtain ⟨n, rfl⟩ := Nat.exists_eq_add_of_le after
  have cut : (c :: cs).take (p + (c :: cs.takeWhile accept).length + n - p) =
      c :: (cs.takeWhile accept ++ (cs.dropWhile accept).take n) := by
    have whole : c :: cs = (c :: cs.takeWhile accept) ++ cs.dropWhile accept := by simp
    rw [whole, Nat.add_assoc, Nat.add_sub_cancel_left, List.take_length_add_append]
    rfl
  have none := takeWhile_dropWhile_take accept n cs
  have rejoin := ((cs.dropWhile accept).take n).takeWhile_append_dropWhile (p := accept)
  rw [none, List.nil_append] at rejoin
  refine ⟨_, cut, ?_, ?_⟩
  · rw [List.takeWhile_append_of_pos all, none, List.append_nil]
  · rw [List.dropWhile_append_of_pos all, rejoin, Nat.add_sub_cancel_left]

/-- A text that is cut where a lexeme starts keeps the tokens before the cut. -/
theorem tokens_take {p : Nat} {cs : List Char} {before after : List Lexeme} {x : Lexeme}
    (h : lexemes p cs = before ++ x :: after) :
    tokens (cs.take (x.span.start - p)) = before.map Lexeme.token := by
  -- The cut is not before the end of the first token, unless that is the lexeme itself.
  have starts {q : Nat} {ds : List Char} {front : List Lexeme}
      (rest : lexemes q ds = front ++ x :: after) : q ≤ x.span.start :=
    ((ordered_lexemes q ds).proper x (by simp [rest])).1
  fun_induction lexemes p cs generalizing before with
  | case1 => simp at h
  | case2 p c cs blank ih =>
    have later := starts h
    have cut : x.span.start - p = x.span.start - (p + 1) + 1 := by omega
    rw [cut, List.take_succ_cons, tokens_blank blank, ih h]
  | case3 p c cs visible letter name =>
    rename_i ih
    rcases before with _ | ⟨y, before⟩
    · obtain ⟨rfl, _⟩ := List.cons.inj h
      simp
    · obtain ⟨rfl, rest⟩ := List.cons.inj h
      obtain ⟨ds, cut, run, left⟩ := take_run (starts rest)
      rw [cut, tokens_word (by simpa using visible) letter, run, left, ih rest, List.map_cons]
  | case4 p c cs visible other digit digits =>
    rename_i ih
    rcases before with _ | ⟨y, before⟩
    · obtain ⟨rfl, _⟩ := List.cons.inj h
      simp
    · obtain ⟨rfl, rest⟩ := List.cons.inj h
      obtain ⟨ds, cut, run, left⟩ := take_run (starts rest)
      rw [cut, tokens_literal (by simpa using visible) (by simpa using other) digit, run, left,
        ih rest, List.map_cons]
  | case5 p c cs visible other plain ih =>
    rcases before with _ | ⟨y, before⟩
    · obtain ⟨rfl, _⟩ := List.cons.inj h
      simp
    · obtain ⟨rfl, rest⟩ := List.cons.inj h
      have later := starts rest
      have cut : x.span.start - p = x.span.start - (p + 1) + 1 := by omega
      rw [cut, List.take_succ_cons, tokens_mark (by simpa using visible) (by simpa using other)
        (by simpa using plain), ih rest, List.map_cons]

end Text

namespace Scanner

open Text

variable {σ : Type} [Source σ] {s : Scanner σ} {c : Char}

def tokens (s : Scanner σ) : List Token := Text.tokens s.upcoming

theorem map_token_lexemes (s : Scanner σ) : s.lexemes.map Lexeme.token = s.tokens :=
  Text.map_token_lexemes ..

@[simp] theorem tokens_record (event : Event) : (s.record event).tokens = s.tokens := rfl

@[simp] theorem tokens_ofSource (source : σ) [Source.Ends source] :
    (ofSource source).tokens = Text.tokens (Source.yielded source) := by
  rw [← map_token_lexemes, lexemes_ofSource, Text.map_token_lexemes]

theorem tokens_of_none (absent : s.lookahead = none) : s.tokens = [] := by
  rw [← map_token_lexemes, lexemes_of_none absent, List.map_nil]

theorem tokens_of_letter (settled : s.Settled) (present : s.lookahead = some c)
    (letter : isLetter c = true) :
    s.tokens = .word s.identifier.1.toList :: s.identifier.2.tokens := by
  rw [← map_token_lexemes, lexemes_of_letter settled present letter, List.map_cons,
    map_token_lexemes]

theorem tokens_of_digit (settled : s.Settled) (present : s.lookahead = some c)
    (other : isLetter c = false) (digit : c.isDigit = true) :
    s.tokens = .literal (s.upcoming.takeWhile Char.isDigit) :: s.integer.2.tokens := by
  rw [← map_token_lexemes, lexemes_of_digit settled present other digit, List.map_cons,
    map_token_lexemes]

theorem tokens_of_mark (settled : s.Settled) (present : s.lookahead = some c)
    (other : isLetter c = false) (plain : c.isDigit = false) :
    s.tokens = .mark c :: s.skip.tokens := by
  rw [← map_token_lexemes, lexemes_of_mark settled present other plain, List.map_cons,
    map_token_lexemes]

/-- How a settled scanner can stand before its tokens. -/
inductive Before (s : Scanner σ) : List Token → Prop where
  | nothing (absent : s.lookahead = none) : Before s []
  | word {c : Char} (present : s.lookahead = some c) (letter : isLetter c = true) :
      Before s (.word s.identifier.1.toList :: s.identifier.2.tokens)
  | literal {c : Char} (present : s.lookahead = some c) (other : isLetter c = false)
      (digit : c.isDigit = true) :
      Before s (.literal (s.upcoming.takeWhile Char.isDigit) :: s.integer.2.tokens)
  | mark {c : Char} (present : s.lookahead = some c) (other : isLetter c = false)
      (plain : c.isDigit = false) : Before s (.mark c :: s.skip.tokens)

theorem before_tokens (settled : s.Settled) : s.Before s.tokens := by
  cases present : s.lookahead with
  | none =>
    rw [tokens_of_none present]
    exact .nothing present
  | some c =>
    by_cases letter : isLetter c = true
    · rw [tokens_of_letter settled present letter]
      exact .word present letter
    have other : isLetter c = false := by simpa using letter
    by_cases digit : c.isDigit = true
    · rw [tokens_of_digit settled present other digit]
      exact .literal present other digit
    have plain : c.isDigit = false := by simpa using digit
    rw [tokens_of_mark settled present other plain]
    exact .mark present other plain

theorem of_tokens_word {name : List Char} {ts : List Token} (settled : s.Settled)
    (h : s.tokens = .word name :: ts) :
    (∃ c, s.lookahead = some c ∧ isLetter c = true) ∧
      s.identifier.1 = String.ofList name ∧ s.identifier.2.tokens = ts := by
  have before := before_tokens settled
  rw [h] at before
  cases before with
  | @word c present letter => exact ⟨⟨c, present, letter⟩, String.ofList_toList.symm, rfl⟩

theorem of_tokens_literal {digits : List Char} {ts : List Token} (settled : s.Settled)
    (h : s.tokens = .literal digits :: ts) :
    (∃ c, s.lookahead = some c ∧ isLetter c = false ∧ c.isDigit = true) ∧
      s.upcoming.takeWhile Char.isDigit = digits ∧ s.integer.2.tokens = ts := by
  have before := before_tokens settled
  rw [h] at before
  cases before with
  | @literal c present other digit => exact ⟨⟨c, present, other, digit⟩, rfl, rfl⟩

theorem of_tokens_mark {ts : List Token} (settled : s.Settled) (h : s.tokens = .mark c :: ts) :
    s.lookahead = some c ∧ s.skip.tokens = ts := by
  have before := before_tokens settled
  rw [h] at before
  cases before with
  | mark present other plain => exact ⟨present, rfl⟩

theorem of_tokens_nil (settled : s.Settled) (h : s.tokens = []) : s.lookahead = none := by
  have before := before_tokens settled
  rw [h] at before
  cases before with
  | nothing absent => exact absent

end Scanner

end Reckoner
