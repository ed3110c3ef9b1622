import Reckoner.Proofs.Lockstep

/-! Blanks separate tokens and mean nothing else. Two texts with the same tokens are parsed in step:
wherever one scanner stands before a token the other stands before the token of the same index
(`Abreast`). So both give the same tree, or the same fault, once each position is replaced by the
index of the token it belongs to (`parseText_of_tokens_eq`). -/
namespace Reckoner

namespace Text

/-- The index of the token that starts at a position. -/
def startIndex? (text : String) (p : Nat) : Option Nat :=
  (lexemes 0 text.toList).findIdx? fun x => x.span.start == p

/-- The index of the token that stops at a position. -/
def stopIndex? (text : String) (p : Nat) : Option Nat :=
  (lexemes 0 text.toList).findIdx? fun x => x.span.stop == p

/-- The index of the token at a position; the end of the text is one past the last token. -/
def placeIndex? (text : String) (p : Nat) : Option Nat :=
  if p = text.length then some (tokens text.toList).length else startIndex? text p

end Text

def Span.reindex? (text : String) (span : Span) : Option Span := do
  let start ← Text.startIndex? text span.start
  let stop ← Text.stopIndex? text span.stop
  return ⟨start, stop⟩

/-- A tree with token indexes for positions. There is none if a position is not where a token starts
or stops. -/
def Expr.reindex? (text : String) : Expr → Option Expr
  | number value span => (span.reindex? text).map (number value)
  | symbol name span => (span.reindex? text).map (symbol name)
  | binary op position left right span => do
    let position ← Text.startIndex? text position
    let left ← left.reindex? text
    let right ← right.reindex? text
    let span ← span.reindex? text
    return .binary op position left right span

theorem Span.reindex?_eq_some {text : String} {span indexed : Span} :
    span.reindex? text = some indexed ↔ Text.startIndex? text span.start = some indexed.start ∧
      Text.stopIndex? text span.stop = some indexed.stop := by
  cases indexed
  simp only [Span.reindex?, Option.bind_eq_bind, Option.pure_def, Option.bind_eq_some_iff]
  constructor
  · rintro ⟨start, first, stop, last, same⟩
    obtain ⟨rfl, rfl⟩ := Span.mk.inj (Option.some.inj same)
    exact ⟨first, last⟩
  · rintro ⟨first, last⟩
    exact ⟨_, first, _, last, rfl⟩

namespace Expr

theorem reindex?_span {text : String} {e indexed : Expr} (h : e.reindex? text = some indexed) :
    e.span.reindex? text = some indexed.span := by
  cases e with
  | number value span | symbol name span =>
    obtain ⟨found, same, rfl⟩ := Option.map_eq_some_iff.mp h
    exact same
  | binary op position left right span =>
    simp only [reindex?, Option.bind_eq_bind, Option.pure_def, Option.bind_eq_some_iff] at h
    obtain ⟨_, _, _, _, _, _, found, same, joined⟩ := h
    obtain rfl := Option.some.inj joined
    exact same

theorem reindex?_join {text : String} {left right l r : Expr} {op : Operator} {position i : Nat}
    (first : left.reindex? text = some l) (here : Text.startIndex? text position = some i)
    (second : right.reindex? text = some r) :
    (left.join op position right).reindex? text = some (l.join op i r) := by
  have starts := Span.reindex?_eq_some.mp (reindex?_span first)
  have stops := Span.reindex?_eq_some.mp (reindex?_span second)
  have span : Span.reindex? text ⟨left.span.start, right.span.stop⟩ =
      some ⟨l.span.start, r.span.stop⟩ := Span.reindex?_eq_some.mpr ⟨starts.1, stops.2⟩
  simp [join, reindex?, first, here, second, span]

end Expr

namespace Text

theorem findIdx?_of_increasing {xs : List Lexeme} {f : Lexeme → Nat} {x : Lexeme} {i : Nat}
    (increasing : xs.Pairwise fun x y => f x < f y) (here : xs[i]? = some x) :
    xs.findIdx? (fun y => f y == f x) = some i := by
  obtain ⟨inside, rfl⟩ := List.getElem?_eq_some_iff.mp here
  apply List.findIdx?_eq_some_iff_getElem.mpr
  refine ⟨inside, by simp, ?_⟩
  intro j before
  have less := List.pairwise_iff_getElem.mp increasing j i (by omega) inside before
  simp
  omega

variable {text : String} {x : Lexeme} {i : Nat}

theorem startIndex?_of_lexeme (here : (lexemes 0 text.toList)[i]? = some x) :
    startIndex? text x.span.start = some i := by
  have ordered := ordered_lexemes 0 text.toList
  refine findIdx?_of_increasing (f := fun y => y.span.start) ?_ here
  apply ordered.apart.imp_of_mem
  intro y z member _ apart
  have := ordered.proper y member
  omega

theorem stopIndex?_of_lexeme (here : (lexemes 0 text.toList)[i]? = some x) :
    stopIndex? text x.span.stop = some i := by
  have ordered := ordered_lexemes 0 text.toList
  refine findIdx?_of_increasing (f := fun y => y.span.stop) ?_ here
  apply ordered.apart.imp_of_mem
  intro y z _ member apart
  have := ordered.proper z member
  omega

end Text

def Token.chars : Token → List Char
  | word name => name
  | literal digits => digits
  | mark c => [c]

namespace Scanner

open Text

/-- Between tokens the next token is known by its first character. -/
theorem lookahead_eq_tokens {σ : Type} [Source σ] {s : Scanner σ} (settled : s.Settled) :
    s.lookahead = s.tokens.head?.bind fun token => token.chars.head? := by
  have before := before_tokens settled
  generalize s.tokens = ts at before
  cases before with
  | nothing absent => simp [absent]
  | word present letter => simp [present, Token.chars, identifier_fst]
  | literal present other digit =>
    rw [upcoming_of_some present]
    simp [present, Token.chars, digit]
  | mark present other plain => simp [present, Token.chars]

/-- The scanner of a text stands before its token of index `i`, or after the last one. -/
structure AtToken (text : String) (i : Nat) (s : Scanner (List Char)) : Prop where
  settled : s.Settled
  along : s.Along text.toList
  within : i ≤ (Text.lexemes 0 text.toList).length
  lexemes : s.lexemes = (Text.lexemes 0 text.toList).drop i

theorem atToken_ofText (text : String) : (ofText text).AtToken text 0 where
  settled := settled_ofText text
  along := along_ofText text
  within := Nat.zero_le _
  lexemes := lexemes_ofText text

namespace AtToken

variable {text : String} {i : Nat} {s t : Scanner (List Char)} {x : Lexeme} {c : Char}

theorem record (stands : s.AtToken text i) (event : Event) : (s.record event).AtToken text i where
  settled := stands.settled
  along := stands.along.record event
  within := stands.within
  lexemes := stands.lexemes

theorem tokens (stands : s.AtToken text i) : s.tokens = (Text.tokens text.toList).drop i := by
  rw [← Scanner.map_token_lexemes, stands.lexemes, List.map_drop, Text.map_token_lexemes]

theorem lexeme (stands : s.AtToken text i) {later : List Lexeme} (taken : s.lexemes = x :: later) :
    (Text.lexemes 0 text.toList)[i]? = some x := by
  rw [← List.head?_drop, ← stands.lexemes, taken, List.head?_cons]

theorem next (stands : s.AtToken text i) (taken : s.lexemes = x :: t.lexemes) (onward : s.Onward t)
    (settled : t.Settled) : t.AtToken text (i + 1) where
  settled := settled
  along := stands.along.onward onward
  within := (List.getElem?_eq_some_iff.mp (stands.lexeme taken)).1
  lexemes := by rw [← List.tail_drop, ← stands.lexemes, taken, List.tail_cons]

theorem reindex? (stands : s.AtToken text i) (taken : s.lexemes = x :: t.lexemes) :
    x.span.reindex? text = some ⟨i, i⟩ := by
  have here := stands.lexeme taken
  exact Span.reindex?_eq_some.mpr ⟨startIndex?_of_lexeme here, stopIndex?_of_lexeme here⟩

theorem mark (stands : s.AtToken text i) (present : s.lookahead = some c)
    (other : isLetter c = false) (plain : c.isDigit = false) :
    s.skip.AtToken text (i + 1) ∧ startIndex? text s.position = some i := by
  have taken := lexemes_of_mark stands.settled present other plain
  exact ⟨stands.next taken (.skip s) (settled_skip s), startIndex?_of_lexeme (stands.lexeme taken)⟩

theorem word (stands : s.AtToken text i) (present : s.lookahead = some c)
    (letter : isLetter c = true) :
    s.identifier.2.AtToken text (i + 1) ∧
      Span.reindex? text ⟨s.position, s.identifier.2.lastEnd⟩ = some ⟨i, i⟩ := by
  have taken := lexemes_of_letter stands.settled present letter
  exact ⟨stands.next taken (.identifier s) (settled_identifier s), stands.reindex? taken⟩

theorem literal (stands : s.AtToken text i) (present : s.lookahead = some c)
    (other : isLetter c = false) (digit : c.isDigit = true) :
    s.integer.2.AtToken text (i + 1) ∧
      Span.reindex? text ⟨s.position, s.integer.2.lastEnd⟩ = some ⟨i, i⟩ := by
  have taken := lexemes_of_digit stands.settled present other digit
  exact ⟨stands.next taken (.integer s) (settled_integer s), stands.reindex? taken⟩

theorem placeIndex? (stands : s.AtToken text i) : placeIndex? text s.position = some i := by
  have within := stands.within
  rw [Text.placeIndex?, ← String.length_toList]
  cases present : s.lookahead with
  | none =>
    have left := stands.lexemes
    rw [lexemes_of_none present, eq_comm, List.drop_eq_nil_iff] at left
    rw [if_pos (stands.along.position_of_end present), ← Text.length_lexemes 0]
    congr 1
    omega
  | some c =>
    have inside := stands.along.position_lt present
    obtain ⟨x, later, taken, starts⟩ := exists_lexeme stands.settled present
    rw [if_neg (by omega), ← starts]
    exact startIndex?_of_lexeme (stands.lexeme taken)

end AtToken

/-- Scanners of two texts before tokens of one index. -/
def Abreast (a b : String) (s t : Scanner (List Char)) : Prop :=
  ∃ i, s.AtToken a i ∧ t.AtToken b i

end Scanner

/-- Trees from two texts that are one tree in terms of their tokens. -/
def Expr.SameIndexed (a b : String) (e f : Expr) : Prop :=
  ∃ g, e.reindex? a = some g ∧ f.reindex? b = some g

namespace Scanner.Abreast

open Text

variable {a b : String} {s t : Scanner (List Char)} {c : Char}

theorem record (abreast : Abreast a b s t) (x y : Event) : Abreast a b (s.record x) (t.record y) := by
  obtain ⟨i, first, second⟩ := abreast
  exact ⟨i, first.record x, second.record y⟩

theorem tokens (abreast : Abreast a b s t) (same : Text.tokens a.toList = Text.tokens b.toList) :
    s.tokens = t.tokens := by
  obtain ⟨i, first, second⟩ := abreast
  rw [first.tokens, second.tokens, same]

theorem lookahead (abreast : Abreast a b s t)
    (same : Text.tokens a.toList = Text.tokens b.toList) : s.lookahead = t.lookahead := by
  have tokens := abreast.tokens same
  obtain ⟨i, first, second⟩ := abreast
  rw [lookahead_eq_tokens first.settled, lookahead_eq_tokens second.settled, tokens]

theorem skip (abreast : Abreast a b s t) (same : Text.tokens a.toList = Text.tokens b.toList)
    (present : s.lookahead = some c) (other : isLetter c = false) (plain : c.isDigit = false) :
    Abreast a b s.skip t.skip := by
  have shown := (abreast.lookahead same).symm.trans present
  obtain ⟨i, first, second⟩ := abreast
  exact ⟨i + 1, (first.mark present other plain).1, (second.mark shown other plain).1⟩

theorem identifier (abreast : Abreast a b s t) (same : Text.tokens a.toList = Text.tokens b.toList)
    (present : s.lookahead = some c) (letter : isLetter c = true) :
    Abreast a b s.identifier.2 t.identifier.2 ∧
      Expr.SameIndexed a b (.symbol s.identifier.1 ⟨s.position, s.identifier.2.lastEnd⟩)
        (.symbol t.identifier.1 ⟨t.position, t.identifier.2.lastEnd⟩) := by
  have shown := (abreast.lookahead same).symm.trans present
  have tokens := abreast.tokens same
  obtain ⟨i, first, second⟩ := abreast
  obtain ⟨firstNext, firstSpan⟩ := first.word present letter
  obtain ⟨secondNext, secondSpan⟩ := second.word shown letter
  rw [tokens_of_letter first.settled present letter,
    tokens_of_letter second.settled shown letter] at tokens
  have name : s.identifier.1 = t.identifier.1 :=
    String.toList_inj.mp (Token.word.inj (List.cons.inj tokens).1)
  refine ⟨⟨i + 1, firstNext, secondNext⟩, .symbol s.identifier.1 ⟨i, i⟩, ?_, ?_⟩
  · simp [Expr.reindex?, firstSpan]
  · simp [Expr.reindex?, secondSpan, name]

theorem integer (abreast : Abreast a b s t) (same : Text.tokens a.toList = Text.tokens b.toList)
    (present : s.lookahead = some c) (other : isLetter c = false) (digit : c.isDigit = true) :
    Abreast a b s.integer.2 t.integer.2 ∧
      s.upcoming.takeWhile Char.isDigit = t.upcoming.takeWhile Char.isDigit ∧
      ∀ value, Expr.SameIndexed a b (.number value ⟨s.position, s.integer.2.lastEnd⟩)
        (.number value ⟨t.position, t.integer.2.lastEnd⟩) := by
  have shown := (abreast.lookahead same).symm.trans present
  have tokens := abreast.tokens same
  obtain ⟨i, first, second⟩ := abreast
  obtain ⟨firstNext, firstSpan⟩ := first.literal present other digit
  obtain ⟨secondNext, secondSpan⟩ := second.literal shown other digit
  rw [tokens_of_digit first.settled present other digit,
    tokens_of_digit second.settled shown other digit] at tokens
  refine ⟨⟨i + 1, firstNext, secondNext⟩, Token.literal.inj (List.cons.inj tokens).1, ?_⟩
  intro value
  refine ⟨.number value ⟨i, i⟩, ?_, ?_⟩
  · simp [Expr.reindex?, firstSpan]
  · simp [Expr.reindex?, secondSpan]

theorem join (abreast : Abreast a b s t) (same : Text.tokens a.toList = Text.tokens b.toList)
    {op : Operator} {l m r q : Expr} (found : s.operator? = some op)
    (left : Expr.SameIndexed a b l m) (right : Expr.SameIndexed a b r q) :
    Expr.SameIndexed a b (l.join op s.position r) (m.join op t.position q) := by
  have shown : t.operator? = some op := by
    rw [operator?, ← abreast.lookahead same]
    exact found
  obtain ⟨i, first, second⟩ := abreast
  obtain ⟨g, leftFirst, leftSecond⟩ := left
  obtain ⟨h, rightFirst, rightSecond⟩ := right
  have here := startIndex?_of_lexeme (first.lexeme (lexemes_of_operator first.settled found))
  have there := startIndex?_of_lexeme (second.lexeme (lexemes_of_operator second.settled shown))
  exact ⟨g.join op i h, Expr.reindex?_join leftFirst here rightFirst,
    Expr.reindex?_join leftSecond there rightSecond⟩

theorem lockstep (same : Text.tokens a.toList = Text.tokens b.toList) :
    Lockstep (fun _ => True) (Abreast a b) (Expr.SameIndexed a b) where
  need := fun _ _ => trivial
  lookahead := fun abreast => abreast.lookahead same
  record := record
  mark := fun abreast present other plain _ => abreast.skip same present other plain
  word := fun abreast present letter _ => abreast.identifier same present letter
  literal := fun abreast present other digit _ => abreast.integer same present other digit
  join := fun abreast found left right => abreast.join same found left right

end Scanner.Abreast

/-- Texts that have the same tokens, however blanks are spread between them, are both read or both
refused. They are read as trees that are identical once each position is the index of the token that
starts there, stops there or is there; they are refused for the same fault at the same token. -/
theorem parseText_of_tokens_eq (a b : String)
    (same : Text.tokens a.toList = Text.tokens b.toList) :
    (∃ e f g, Parser.parseText a = .ok e ∧ Parser.parseText b = .ok f ∧
      e.reindex? a = some g ∧ f.reindex? b = some g) ∨
    ∃ d k i, Parser.parseText a = .error d ∧ Parser.parseText b = .error k ∧ d.fault = k.fault ∧
      Text.placeIndex? a d.position = some i ∧ Text.placeIndex? b k.position = some i := by
  have start : Scanner.Abreast a b (.ofText a) (.ofText b) :=
    ⟨0, Scanner.atToken_ofText a, Scanner.atToken_ofText b⟩
  obtain ⟨result, rest, descent⟩ := Parser.exists_descent (Scanner.ofText a)
  obtain ⟨other, last, like, agree, after⟩ :=
    (Scanner.Abreast.lockstep same).descent descent trivial start
  cases agree with
  | ok trees =>
    have shown := after.lookahead same
    cases present : rest.lookahead with
    | none =>
      obtain ⟨g, first, second⟩ := trees
      rw [present] at shown
      exact .inl ⟨_, _, g, Parser.parseComplete_ok_iff.mpr ⟨rest, descent, present⟩,
        Parser.parseComplete_ok_iff.mpr ⟨last, like, shown.symm⟩, first, second⟩
    | some c =>
      obtain ⟨i, first, second⟩ := after
      rw [present] at shown
      exact .inr ⟨_, _, i, Parser.parseComplete_of_trailing descent present,
        Parser.parseComplete_of_trailing like shown.symm, rfl, first.placeIndex?,
        second.placeIndex?⟩
  | error fault stands =>
    obtain ⟨i, first, second⟩ := stands
    exact .inr ⟨_, _, i, Parser.parseComplete_of_descent_error descent,
      Parser.parseComplete_of_descent_error like, rfl, first.placeIndex?, second.placeIndex?⟩

/-- Every kind of blank, also one inside the text that no plain space is. -/
theorem parseText_of_tokens_eq_spread :
    Text.tokens "(1+x)*2".toList = Text.tokens " ( 1\t+\u3000x )\n* 2 ".toList ∧
    ∃ e f g, Parser.parseText "(1+x)*2" = .ok e ∧
      Parser.parseText " ( 1\t+\u3000x )\n* 2 " = .ok f ∧
      e.reindex? "(1+x)*2" = some g ∧ f.reindex? " ( 1\t+\u3000x )\n* 2 " = some g := by
  have same : Text.tokens "(1+x)*2".toList = Text.tokens " ( 1\t+\u3000x )\n* 2 ".toList := by
    decide +kernel
  refine ⟨same, ?_⟩
  rcases parseText_of_tokens_eq _ _ same with read | ⟨d, _, _, refused, _⟩
  · exact read
  · have accepted : (Parser.parseText "(1+x)*2").toOption.isSome = true := by decide +kernel
    rw [refused] at accepted
    contradiction

end Reckoner
