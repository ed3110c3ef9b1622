/-! Where characters come from.

A source hands out one character at a time until it ends or fails. Asking again after that is
allowed, and what comes then is up to the source. -/
namespace Reckoner

namespace Failure

/-- The kinds of failure. A device names kinds of its own. -/
inductive Kind where
  | invalidData
  | unexpectedEnd
  | named (name : String)
  deriving DecidableEq, Repr

end Failure

/-- Why a source could not give a character. -/
inductive Failure where
  | malformed
  | truncated
  | device (kind : Failure.Kind) (reason : String)
  deriving DecidableEq, Repr

namespace Failure

def kind : Failure → Kind
  | malformed => .invalidData
  | truncated => .unexpectedEnd
  | device kind _ => kind

def message : Failure → String
  | malformed => "stream did not contain valid UTF-8"
  | truncated => "failed to fill whole buffer"
  | device _ reason => reason

end Failure

inductive Reading where
  | char (c : Char)
  | ended
  | failed (failure : Failure)
  deriving DecidableEq, Repr

def Reading.char? : Reading → Option Char
  | char c => some c
  | ended | failed _ => none

theorem Reading.eq_char {reading : Reading} {c : Char} (h : reading.char? = some c) :
    reading = .char c := by
  cases reading with
  | char => exact congrArg char (Option.some.inj h)
  | ended | failed => contradiction

/-- So many characters come before the first answer that is none. What comes after that answer is
left open: a source may go on for ever. -/
inductive Source.EndsAfter {σ : Type} (next : σ → Reading × σ) : Nat → σ → Prop where
  | now {s : σ} (spent : ∀ c, (next s).1 ≠ .char c) : EndsAfter next 0 s
  | later {s rest : σ} {c : Char} {count : Nat} (given : next s = (.char c, rest))
      (ends : EndsAfter next count rest) : EndsAfter next (count + 1) s

/-- A way of answering requests. Nothing is asked of the answers themselves (`Source.ofNext`):
`budget` only says how long a source that ends can be read, and is free where it does not. -/
class Source (σ : Type) where
  next : σ → Reading × σ
  budget : σ → Nat
  budget_lt {s rest : σ} {c : Char} {count : Nat} (given : next s = (.char c, rest))
    (ends : Source.EndsAfter next count s) : budget rest < budget s

namespace Source

namespace EndsAfter

variable {σ : Type} {next : σ → Reading × σ} {s rest : σ} {count : Nat}

theorem of_char {c : Char} (ends : EndsAfter next count s) (given : next s = (.char c, rest)) :
    ∃ fewer, count = fewer + 1 ∧ EndsAfter next fewer rest := by
  cases ends with
  | now spent => exact absurd (congrArg Prod.fst given) (spent c)
  | later met ends =>
    obtain ⟨_, rfl⟩ := Prod.mk.inj (met.symm.trans given)
    exact ⟨_, rfl, ends⟩

theorem unique {other : Nat} (first : EndsAfter next count s) (second : EndsAfter next other s) :
    count = other := by
  induction first generalizing other with
  | now spent =>
    cases second with
    | now => rfl
    | later given => exact absurd (congrArg Prod.fst given) (spent _)
  | later given _ ih =>
    obtain ⟨fewer, rfl, ends⟩ := second.of_char given
    rw [ih ends]

end EndsAfter

open Classical in
/-- Every way of answering is a source. Where it ends, the characters before that are counted. -/
noncomputable abbrev ofNext {σ : Type} (next : σ → Reading × σ) : Source σ where
  next := next
  budget s := if ends : ∃ count, EndsAfter next count s then ends.choose else 0
  budget_lt {s rest c count} given ends := by
    obtain ⟨fewer, rfl, left⟩ := ends.of_char given
    have some : ∃ count, EndsAfter next count s := ⟨_, ends⟩
    have less : ∃ count, EndsAfter next count rest := ⟨_, left⟩
    rw [dif_pos less, dif_pos some, less.choose_spec.unique left, some.choose_spec.unique ends]
    exact Nat.lt_succ_self fewer

variable {σ : Type} [Source σ]

/-- A source that ends or fails sooner or later. -/
class Ends (source : σ) : Prop where
  after : ∃ count, EndsAfter next count source

theorem Ends.rest {source rest : σ} {c : Char} (ends : Ends source)
    (given : next source = (.char c, rest)) : Ends rest := by
  obtain ⟨count, ends⟩ := ends.after
  obtain ⟨fewer, _, left⟩ := ends.of_char given
  exact ⟨fewer, left⟩

theorem Ends.budget_lt {source rest : σ} {c : Char} (ends : Ends source)
    (given : next source = (.char c, rest)) : budget rest < budget source := by
  obtain ⟨count, ends⟩ := ends.after
  exact Source.budget_lt given ends

/-- A source whose every character brings its budget down ends. -/
theorem ends_of_budget_lt
    (falls : ∀ {s rest : σ} {c : Char}, next s = (.char c, rest) → budget rest < budget s)
    (source : σ) : Ends source := by
  induction bound : budget source using Nat.strongRecOn generalizing source with
  | ind size ih =>
    match given : next source with
    | (.char c, rest) =>
      obtain ⟨count, ends⟩ := (ih _ (bound ▸ falls given) rest rfl).after
      exact ⟨count + 1, .later given ends⟩
    | (.ended, _) | (.failed _, _) => exact ⟨0, .now (by simp [given])⟩

/-- A text held in memory, which never fails. -/
def nextOfText : List Char → Reading × List Char
  | [] => (.ended, [])
  | c :: cs => (.char c, cs)

theorem length_nextOfText_lt {cs rest : List Char} {c : Char}
    (given : nextOfText cs = (.char c, rest)) : rest.length < cs.length := by
  cases cs with
  | nil => simp [nextOfText] at given
  | cons d ds =>
    simp only [nextOfText, Prod.mk.injEq] at given
    simp [← given.2]

instance : Source (List Char) where
  next := nextOfText
  budget := List.length
  budget_lt given _ := length_nextOfText_lt given

instance (text : List Char) : Ends text := ends_of_budget_lt length_nextOfText_lt text

/-- The answers to `count` requests in a row, whatever they are. -/
def readings : Nat → σ → List Reading
  | 0, _ => []
  | count + 1, s => (next s).1 :: readings count (next s).2

end Source

end Reckoner
