import Reckoner.Proofs.Course

/-! Keeping watch over a source. A watched source answers as the source under it does; besides it
counts the requests made of it, and calls can be noted with it. Watching changes nothing: every
parser and every operation does over the watched source what it does over the source itself
(`Parser.mirrors_factor`, `Scanner.perform_forget`). And however a scanner is dealt with, the count
stays one ahead of its position (`Scanner.Ahead.onward`): a source is asked once for each character
and once for its end. -/
namespace Reckoner

variable {σ : Type} [Source σ]

structure Watched (σ : Type) where
  source : σ
  /-- How often a character was asked for. -/
  requests : Nat
  /-- The depths of the calls that were noted, latest first. -/
  calls : List Nat

namespace Watched

def next (w : Watched σ) : Reading × Watched σ :=
  ((Source.next w.source).1, ⟨(Source.next w.source).2, w.requests + 1, w.calls⟩)

theorem endsAfter_iff {w : Watched σ} {count : Nat} :
    Source.EndsAfter next count w ↔ Source.EndsAfter Source.next count w.source := by
  constructor
  · intro ends
    induction ends with
    | now spent => exact .now spent
    | later given _ ih =>
      obtain ⟨first, rfl⟩ := Prod.mk.inj given
      exact .later (Prod.ext first rfl) ih
  · intro ends
    generalize same : w.source = source at ends
    induction ends generalizing w with
    | now spent =>
      subst same
      exact .now spent
    | @later s rest c count given _ ih =>
      have asked : w.next = (.char c, ⟨rest, w.requests + 1, w.calls⟩) := by
        simp [next, same, given]
      exact .later asked (ih rfl)

end Watched

instance : Source (Watched σ) where
  next := Watched.next
  budget w := Source.budget w.source
  budget_lt {w rest c count} given ends := by
    obtain ⟨first, rfl⟩ := Prod.mk.inj given
    exact Source.budget_lt (Prod.ext first rfl) (Watched.endsAfter_iff.mp ends)

namespace Source

def watched (source : σ) : Watched σ := ⟨source, 0, []⟩

theorem ends_watched {w : Watched σ} : Ends w ↔ Ends w.source := by
  constructor
  · rintro ⟨count, ends⟩
    exact ⟨count, Watched.endsAfter_iff.mp ends⟩
  · rintro ⟨count, ends⟩
    exact ⟨count, Watched.endsAfter_iff.mpr ends⟩

instance (source : σ) [ends : Ends source] : Ends (watched source) := ends_watched.mpr ends

@[simp] theorem yielded_watched (w : Watched σ) [ends : Ends w] : yielded w = yielded w.source := by
  induction w, ends using Ends.induction with
  | now w ends spent =>
    have also : ∀ c, (next w.source).1 ≠ .char c := spent
    rw [yielded_of_no_char spent, yielded_of_no_char also]
  | later w rest c ends given ih =>
    have : Ends w.source := ends_watched.mp ends
    obtain ⟨first, rfl⟩ := Prod.mk.inj given
    rw [yielded_of_char given, ih, yielded_of_char (Prod.ext first rfl)]

theorem take_readings {count bound : Nat} (within : count ≤ bound) (source : σ) :
    (readings bound source).take count = readings count source := by
  induction count generalizing bound source with
  | zero => rfl
  | succ count ih =>
    obtain ⟨bound, rfl⟩ := Nat.exists_eq_add_of_le' (Nat.le_trans (Nat.le_add_left 1 count) within)
    rw [readings, readings, List.take_succ_cons, ih (Nat.le_of_succ_le_succ within)]

end Source

namespace Scanner

def forget (s : Scanner (Watched σ)) : Scanner σ :=
  ⟨s.source.source, s.lookahead, s.position, s.lastEnd, s.trace,
    fun present => Source.ends_watched.mp (s.ends present)⟩

section Forget

variable (s : Scanner (Watched σ))

@[simp] theorem lookahead_forget : s.forget.lookahead = s.lookahead := rfl

@[simp] theorem peek_forget : s.forget.peek = s.peek := rfl

@[simp] theorem position_forget : s.forget.position = s.position := rfl

@[simp] theorem lastEnd_forget : s.forget.lastEnd = s.lastEnd := rfl

@[simp] theorem record_forget (event : Event) : s.forget.record event = (s.record event).forget :=
  rfl

@[simp] theorem operator?_forget : s.forget.operator? = s.operator? := rfl

@[simp] theorem upcoming_forget : s.forget.upcoming = s.upcoming := by
  cases present : s.lookahead with
  | none => simp [upcoming, present]
  | some c =>
    have : Source.Ends s.source := s.ends (by simp [present])
    simp only [upcoming, lookahead_forget, present, Source.yielded_watched]
    rfl

theorem load_forget (w : Watched σ) (ends : Source.Ends w) (position lastEnd : Nat)
    (trace : List Event) :
    load w.source (Source.ends_watched.mp ends) position lastEnd trace =
      (load w ends position lastEnd trace).forget := rfl

@[simp] theorem advance_forget : s.forget.advance = s.advance.forget := by
  cases present : s.lookahead with
  | none => rw [advance_of_none present, advance_of_none (s := s.forget) present]
  | some c =>
    rw [advance_of_some present, advance_of_some (s := s.forget) present]
    exact load_forget ..

@[simp] theorem takeFrom_forget (accept : Char → Bool) (taken : List Char) :
    s.forget.takeFrom accept taken =
      ((s.takeFrom accept taken).1, (s.takeFrom accept taken).2.forget) := by
  fun_induction takeFrom accept taken s with
  | case1 taken s c present accepted ih =>
    rw [takeFrom_of_some (s := s.forget) present, if_pos accepted, advance_forget, ih]
  | case2 taken s c present refused =>
    rw [takeFrom_of_some (s := s.forget) present, if_neg refused]
  | case3 taken s absent => rw [takeFrom_of_none (s := s.forget) absent]

@[simp] theorem takeWhile_forget (accept : Char → Bool) :
    s.forget.takeWhile accept = ((s.takeWhile accept).1, (s.takeWhile accept).2.forget) :=
  takeFrom_forget ..

@[simp] theorem skipBlanks_forget : s.forget.skipBlanks = s.skipBlanks.forget := by
  simp [skipBlanks]

@[simp] theorem skip_forget : s.forget.skip = s.skip.forget := by
  simp [skip]

@[simp] theorem expect_forget (c : Char) :
    s.forget.expect c = ((s.expect c).1, (s.expect c).2.forget) := by
  by_cases present : s.lookahead = some c <;> simp [expect, present]

@[simp] theorem identifier_forget :
    s.forget.identifier = (s.identifier.1, s.identifier.2.forget) := by
  simp [identifier]

@[simp] theorem integer_forget : s.forget.integer = (s.integer.1, s.integer.2.forget) := by
  simp only [integer, takeWhile_forget, skipBlanks_forget, record_forget]
  split <;> rfl

@[simp] theorem takeOperator_forget :
    s.forget.takeOperator = (s.takeOperator.1, s.takeOperator.2.forget) := by
  cases found : s.operator? <;> simp [takeOperator, found]

theorem ofSource_forget (source : σ) [Source.Ends source] :
    ofSource source = (ofSource (Source.watched source)).forget := by
  rw [ofSource, ofSource, ← skipBlanks_forget, ← load_forget]
  rfl

end Forget

end Scanner

namespace Parser

/-- A parser over watched sources does what another one does over the sources themselves. -/
def Mirrors (watched : Parser (Watched σ) Expr) (plain : Parser σ Expr) : Prop :=
  ∀ s, plain.run s.forget = ((watched.run s).1, (watched.run s).2.forget)

variable {watched : Parser (Watched σ) Expr} {plain : Parser σ Expr}

theorem chainFrom_forget (mirrors : watched.Mirrors plain) (power : Power) (left : Expr)
    (s : Scanner (Watched σ)) :
    chainFrom power plain left s.forget =
      ((chainFrom power watched left s).1, (chainFrom power watched left s).2.forget) := by
  fun_induction chainFrom power watched left s with
  | case1 left s op found same right rest read ih =>
    have step := mirrors s.skip
    rw [read, ← Scanner.skip_forget] at step
    rw [chainFrom_of_operator (s := s.forget) found same step]
    exact ih
  | case2 left s op found same diagnostic rest read =>
    have step := mirrors s.skip
    rw [read, ← Scanner.skip_forget] at step
    exact chainFrom_of_operator (s := s.forget) found same step
  | case3 left s op found other =>
    apply chainFrom_of_not_continues
    rintro ⟨next, present, same⟩
    obtain rfl := Option.some.inj (found.symm.trans present)
    exact other same
  | case4 left s absent =>
    apply chainFrom_of_not_continues
    rintro ⟨next, present, _⟩
    simp [absent] at present

theorem mirrors_chain (mirrors : watched.Mirrors plain) (power : Power) :
    (chain power watched).Mirrors (chain power plain) := by
  intro s
  simp only [chain, mirrors s]
  rcases watched.run s with ⟨_ | first, rest⟩
  · rfl
  · exact chainFrom_forget mirrors power first rest

theorem group_forget {inner : Option (Parser (Watched σ) Expr)} {other : Option (Parser σ Expr)}
    (mirrors : Option.Rel Mirrors inner other) (s : Scanner (Watched σ)) :
    group other s.forget = ((group inner s).1, (group inner s).2.forget) := by
  cases mirrors with
  | none => rfl
  | @some watched plain same =>
    simp only [group, Scanner.skip_forget, same s.skip]
    rcases watched.run s.skip with ⟨_ | e, rest⟩
    · rfl
    · simp only [Scanner.expect_forget]
      rcases rest.expect ')' with ⟨_ | _, _⟩ <;> rfl

theorem mirrors_factorOf {inner : Option (Parser (Watched σ) Expr)}
    {other : Option (Parser σ Expr)} (mirrors : Option.Rel Mirrors inner other) :
    (factorOf inner).Mirrors (factorOf other) := by
  intro s
  cases present : s.lookahead with
  | none => simp [factorOf, present]
  | some c =>
    simp only [factorOf, Scanner.lookahead_forget, present]
    split
    · simp [symbol]
    · split
      · simp only [number, Scanner.integer_forget]
        rcases s.integer with ⟨_ | _, _⟩ <;> rfl
      · split
        · exact group_forget mirrors s
        · rfl

theorem mirrors_factor (room : Nat) :
    (factor room : Parser (Watched σ) Expr).Mirrors (factor room) := by
  induction room with
  | zero => exact mirrors_factorOf .none
  | succ room ih =>
    exact mirrors_factorOf (.some (mirrors_chain (mirrors_chain ih .multiplicative) .additive))

theorem mirrors_product (room : Nat) :
    (product room : Parser (Watched σ) Expr).Mirrors (product room) :=
  mirrors_chain (mirrors_factor room) .multiplicative

theorem mirrors_sum (room : Nat) : (sum room : Parser (Watched σ) Expr).Mirrors (sum room) :=
  mirrors_chain (mirrors_product room) .additive

theorem parse_forget (s : Scanner (Watched σ)) :
    parse s.forget = ((parse s).1, (parse s).2.forget) := by
  simp only [parse, mirrors_sum nestingLimit s]
  rcases (sum nestingLimit).run s with ⟨_ | _, _⟩ <;> rfl

theorem parseComplete_forget (s : Scanner (Watched σ)) :
    parseComplete s.forget = ((parseComplete s).1, (parseComplete s).2.forget) := by
  simp only [parseComplete, parse_forget s]
  rcases parse s with ⟨_ | e, rest⟩
  · rfl
  · simp only [Scanner.lookahead_forget]
    cases rest.lookahead <;> rfl

end Parser

namespace Scanner

/-- One step: every operation gives the same answer and the same scanner, watched or not. -/
theorem perform_forget (s : Scanner (Watched σ)) (operation : Operation) :
    s.forget.perform operation = ((s.perform operation).1, (s.perform operation).2.forget) := by
  cases operation with
  | skip | expect | identifier | integer | peekOperator | takeOperator => simp [perform]
  | factor => simp only [perform, Parser.mirrors_factor nestingLimit s]
  | product => simp only [perform, Parser.mirrors_product nestingLimit s]
  | sum => simp only [perform, Parser.mirrors_sum nestingLimit s]
  | parse => simp only [perform, Parser.parse_forget]
  | parseComplete => simp only [perform, Parser.parseComplete_forget]

/-- All steps. -/
theorem play_forget (s : Scanner (Watched σ)) (operations : List Operation) :
    s.forget.play operations = s.play operations := by
  induction operations generalizing s with
  | nil => rfl
  | cons operation operations ih =>
    simp only [play, perform_forget, ih]
    rfl

theorem playThrough_forget (s : Scanner (Watched σ)) (operations : List Operation) :
    s.forget.playThrough operations = (s.playThrough operations).forget := by
  induction operations generalizing s with
  | nil => rfl
  | cons operation operations ih =>
    simp only [playThrough, List.foldl_cons, perform_forget] at ih ⊢
    exact ih _

theorem requests_load (w : Watched σ) (ends : Source.Ends w) (position lastEnd : Nat)
    (trace : List Event) : (load w ends position lastEnd trace).source.requests = w.requests + 1 :=
  rfl

/-- One request ahead of the position. -/
def Ahead (s : Scanner (Watched σ)) : Prop := s.source.requests = s.position + 1

/-- A character taken is a request made. At the end neither happens. -/
theorem Ahead.advance {s : Scanner (Watched σ)} (ahead : s.Ahead) : s.advance.Ahead := by
  cases present : s.lookahead with
  | none => rwa [advance_of_none present]
  | some c =>
    rw [Ahead, position_advance present, advance_of_some present, requests_load]
    exact congrArg (· + 1) ahead

theorem Ahead.onward {s t : Scanner (Watched σ)} (ahead : s.Ahead) (h : s.Onward t) : t.Ahead :=
  h.keeps (fun _ before => before.advance) (fun _ _ before => before) ahead

theorem ahead_ofSource (source : σ) [Source.Ends source] :
    (ofSource (Source.watched source)).Ahead := by
  have start : (load (Source.watched source) inferInstance 0 0 []).Ahead := by
    rw [Ahead, requests_load, position_load]
    rfl
  exact start.onward (.skipBlanks _)

theorem along_watched {source : σ} {text : String} [Source.Ends source]
    (yields : Source.Yields source text) :
    (ofSource (Source.watched source)).Along text.toList := by
  have along := along_ofSource (Source.watched source)
  rw [Source.yielded_watched] at along
  exact yields.yielded_eq ▸ along

/-- The characters of an input that a scanner has got: those before the lookahead, and the
lookahead. -/
def drawn (input : List Char) (s : Scanner σ) : List Char :=
  input.take s.position ++ s.lookahead.toList

theorem Along.drawn_eq {input : List Char} {s : Scanner σ} (along : s.Along input) :
    s.drawn input = input.take (s.position + 1) := by
  rw [drawn, along.lookahead, List.take_add_one]

theorem Along.length_drawn {input : List Char} {s : Scanner σ} (along : s.Along input) :
    (s.drawn input).length + (if s.atEnd then 1 else 0) = s.position + 1 := by
  have within := along.within
  cases present : s.lookahead <;> simp [drawn, atEnd, present] <;> omega

/-- The answers that a scanner has got are the characters drawn and, at the end, one answer that is
no character. -/
theorem Along.readings_eq {source : σ} {text : String} (yields : Source.Yields source text)
    {s : Scanner (Watched σ)} (along : s.Along text.toList) (ahead : s.Ahead) :
    ∃ last, (∀ c, last ≠ .char c) ∧
      Source.readings s.source.requests source =
        (s.drawn text.toList).map .char ++ if s.atEnd then [last] else [] := by
  obtain ⟨last, stops, answers⟩ := yields
  refine ⟨last, stops, ?_⟩
  have within := along.within
  have few : s.source.requests ≤ text.toList.length + 1 := by
    rw [ahead]
    omega
  rw [← Source.take_readings few, answers, ahead, along.drawn_eq, List.map_take]
  cases present : s.lookahead with
  | none =>
    have whole := along.position_of_end present
    rw [List.take_of_length_le (by simp [whole]), List.take_of_length_le (by simp [whole])]
    simp [atEnd, present]
  | some c =>
    have inside : s.position + 1 ≤ text.toList.length := along.position_lt present
    rw [List.take_append_of_le_length (by rwa [List.length_map])]
    simp [atEnd, present]

end Scanner

end Reckoner
