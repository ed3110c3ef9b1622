import Reckoner.Proofs.Progress
import Reckoner.Proofs.Watching

/-! What a parse costs. `factorAt`, `productAt` and `sumAt` are the parsers with every call noted at
its depth; but for the notes they do what `factor`, `product` and `sum` do (`mirrors_factorAt`).
Each character that is not blank pays for three calls, one at each level, and a failure leaves a
debt of three at most (`within_factorAt`). A parse therefore makes at most three calls for each
character that is to come and three more, none of them deeper than the limit, and ends. -/
namespace Reckoner

variable {σ : Type} [Source σ]

namespace Scanner

def note (depth : Nat) (s : Scanner (Watched σ)) : Scanner (Watched σ) :=
  { s with
    source := ⟨s.source.source, s.source.requests, depth :: s.source.calls⟩
    ends := fun present =>
      have ends : Source.Ends s.source.source := Source.ends_watched.mp (s.ends present)
      Source.ends_watched.mpr ends }

@[simp] theorem forget_note (depth : Nat) (s : Scanner (Watched σ)) :
    (s.note depth).forget = s.forget := rfl

theorem upcoming_note (depth : Nat) (s : Scanner (Watched σ)) :
    (s.note depth).upcoming = s.upcoming := by
  rw [← upcoming_forget, forget_note, upcoming_forget]

end Scanner

namespace Parser

def noting (depth : Nat) (p : Parser (Watched σ) Expr) : Parser (Watched σ) Expr where
  run s := p.run (s.note depth)
  remaining_le s := p.remaining_le (s.note depth)

def productOver (depth : Nat) (factor : Parser (Watched σ) Expr) : Parser (Watched σ) Expr :=
  (chain .multiplicative factor).noting depth

def sumOver (depth : Nat) (factor : Parser (Watched σ) Expr) : Parser (Watched σ) Expr :=
  (chain .additive (productOver depth factor)).noting depth

/-- A factor at a depth. One level down is entered only where the limit is not reached. -/
def factorAt (depth : Nat) : Parser (Watched σ) Expr :=
  (factorOf (if depth < nestingLimit then some (sumOver (depth + 1) (factorAt (depth + 1)))
    else none)).noting depth
termination_by nestingLimit - depth

def productAt (depth : Nat) : Parser (Watched σ) Expr := productOver depth (factorAt depth)
def sumAt (depth : Nat) : Parser (Watched σ) Expr := sumOver depth (factorAt depth)

theorem factorAt_eq (depth : Nat) : (factorAt depth : Parser (Watched σ) Expr) =
    (factorOf (if depth < nestingLimit then some (sumAt (depth + 1)) else none)).noting depth := by
  rw [factorAt]
  rfl

theorem Mirrors.noting {watched : Parser (Watched σ) Expr} {plain : Parser σ Expr}
    (mirrors : watched.Mirrors plain) (depth : Nat) : (watched.noting depth).Mirrors plain :=
  fun s => mirrors (s.note depth)

theorem Mirrors.productOver {watched : Parser (Watched σ) Expr} {plain : Parser σ Expr}
    (mirrors : watched.Mirrors plain) (depth : Nat) :
    (productOver depth watched).Mirrors (productOf plain) :=
  (mirrors_chain mirrors .multiplicative).noting depth

theorem Mirrors.sumOver {watched : Parser (Watched σ) Expr} {plain : Parser σ Expr}
    (mirrors : watched.Mirrors plain) (depth : Nat) :
    (sumOver depth watched).Mirrors (sumOf plain) :=
  (mirrors_chain (mirrors.productOver depth) .additive).noting depth

/-- The room is what the depth leaves of the limit. -/
theorem mirrors_factorAt (depth : Nat) :
    (factorAt depth : Parser (Watched σ) Expr).Mirrors (factor (nestingLimit - depth)) := by
  fun_induction factorAt (σ := σ) depth with
  | case1 depth ih =>
    apply Mirrors.noting
    by_cases fits : depth < nestingLimit
    · have room : nestingLimit - depth = nestingLimit - (depth + 1) + 1 := by omega
      rw [if_pos fits, room]
      exact mirrors_factorOf (.some ((ih fits).sumOver (depth + 1)))
    · have room : nestingLimit - depth = 0 := by omega
      rw [if_neg fits, room]
      exact mirrors_factorOf .none

end Parser

namespace Scanner

/-- From one scanner to another calls were made, none of them too deep, and the characters taken
pay for them at three calls each, but for a `price` that is left. A negative price is what is left
over. -/
def Charged (price : Int) (s rest : Scanner (Watched σ)) : Prop :=
  ∃ made, rest.source.calls = made ++ s.source.calls ∧ (∀ depth ∈ made, depth ≤ nestingLimit) ∧
    (made.length : Int) + 3 * Text.visibleCount rest.upcoming ≤
      3 * Text.visibleCount s.upcoming + price

namespace Charged

variable {s t u : Scanner (Watched σ)} {price more : Int}

theorem refl (s : Scanner (Watched σ)) : s.Charged 0 s := ⟨[], rfl, by simp, by simp⟩

theorem trans (first : s.Charged price t) (second : t.Charged more u) :
    s.Charged (price + more) u := by
  obtain ⟨made, before, shallow, cost⟩ := first
  obtain ⟨later, after, low, extra⟩ := second
  refine ⟨later ++ made, by rw [after, before, List.append_assoc], ?_, ?_⟩
  · intro depth member
    rcases List.mem_append.mp member with here | there
    · exact low depth here
    · exact shallow depth there
  · rw [List.length_append]
    omega

theorem mono (h : s.Charged price t) (dearer : price ≤ more) : s.Charged more t := by
  obtain ⟨made, before, shallow, cost⟩ := h
  exact ⟨made, before, shallow, by omega⟩

theorem record (h : s.Charged price t) (event : Event) : s.Charged price (t.record event) := h

theorem note {depth : Nat} (shallow : depth ≤ nestingLimit) (s : Scanner (Watched σ)) :
    s.Charged 1 (s.note depth) := by
  refine ⟨[depth], rfl, by simpa using shallow, ?_⟩
  rw [upcoming_note]
  simp
  omega

end Charged

theorem calls_load (w : Watched σ) (ends : Source.Ends w) (position lastEnd : Nat)
    (trace : List Event) : (load w ends position lastEnd trace).source.calls = w.calls := rfl

theorem Onward.calls_eq {s t : Scanner (Watched σ)} (h : s.Onward t) :
    t.source.calls = s.source.calls := by
  refine h.keeps (P := fun u => u.source.calls = s.source.calls) ?_ ?_ rfl
  · intro u before
    cases present : u.lookahead with
    | none => rwa [advance_of_none present]
    | some c => rwa [advance_of_some present, calls_load]
  · exact fun _ _ before => before

theorem Onward.charged {s t : Scanner (Watched σ)} {count : Nat} (h : s.Onward t)
    (consumes : s.Consumes count t) : s.Charged (-3 * count) t := by
  have fewer := consumes.visibleCount_le
  exact ⟨[], h.calls_eq, by simp, by simp; omega⟩

theorem charged_skip {s : Scanner (Watched σ)} {c : Char} (present : s.lookahead = some c)
    (visible : Text.isBlank c = false) : s.Charged (-3) s.skip :=
  (Onward.skip s).charged (consumes_skip present visible)

/-- What the outcome of a run costs: the `price` of a success or the `debt` of a failure. -/
def Charges (price debt : Int) (s : Scanner (Watched σ)) :
    Except Diagnostic Expr × Scanner (Watched σ) → Prop
  | (.ok _, rest) => s.Charged price rest
  | (.error _, rest) => s.Charged debt rest

theorem Charged.before {s t : Scanner (Watched σ)} {paid price debt cost owed : Int}
    {outcome : Except Diagnostic Expr × Scanner (Watched σ)} (h : s.Charged paid t)
    (later : Charges price debt t outcome) (covers : paid + price ≤ cost)
    (settles : paid + debt ≤ owed) : Charges cost owed s outcome := by
  rcases outcome with ⟨_ | _, rest⟩
  · exact (h.trans later).mono settles
  · exact (h.trans later).mono covers

end Scanner

namespace Parser

/-- What a parser costs, wherever it is run. -/
def Within (price debt : Int) (p : Parser (Watched σ) Expr) : Prop :=
  ∀ s : Scanner (Watched σ), s.Charges price debt (p.run s)

variable {price debt : Int}

theorem Within.noting {p : Parser (Watched σ) Expr} (h : p.Within price debt) {depth : Nat}
    (shallow : depth ≤ nestingLimit) : (p.noting depth).Within (1 + price) (1 + debt) :=
  fun s => (Scanner.Charged.note shallow s).before (h (s.note depth)) (Int.le_refl _) (Int.le_refl _)

/-- The operator pays for a round of the loop. -/
theorem charges_chainFrom {operand : Parser (Watched σ) Expr} (within : operand.Within price debt)
    (free : price ≤ 0) (power : Power) (left : Expr) (s : Scanner (Watched σ)) :
    s.Charges 0 debt (chainFrom power operand left s) := by
  fun_induction chainFrom power operand left s with
  | case1 left s op found same right rest read ih =>
    have operator := (Scanner.Onward.skip s).charged (Scanner.consumes_operator found)
    have step := within s.skip
    rw [read] at step
    exact ((operator.trans step).record _).before ih (by omega) (by omega)
  | case2 left s op found same diagnostic rest read =>
    have operator := (Scanner.Onward.skip s).charged (Scanner.consumes_operator found)
    have step := within s.skip
    rw [read] at step
    exact (operator.trans step).mono (by omega)
  | case3 left s | case4 left s => exact .refl s

theorem Within.chain {operand : Parser (Watched σ) Expr} (within : operand.Within price debt)
    (free : price ≤ 0) (power : Power) :
    (chain power operand).Within price debt := by
  intro s
  have first := within s
  simp only [Parser.chain]
  split
  · next e rest read =>
    rw [read] at first
    exact first.before (charges_chainFrom within free power e rest) (by omega) (by omega)
  · next read =>
    rw [read] at first
    exact first

/-- The parenthesis pays for what a failure inside leaves owing. -/
theorem charges_group {inner : Option (Parser (Watched σ) Expr)} (within : ∀ p ∈ inner, p.Within 0 3)
    {s : Scanner (Watched σ)} (present : s.lookahead = some '(') :
    s.Charges (-3) 0 (group inner s) := by
  have opened := Scanner.charged_skip present (by decide)
  cases inner with
  | none => exact .refl s
  | some inner =>
    have step := within inner rfl s.skip
    simp only [group]
    split
    · next read =>
      rw [read] at step
      exact (opened.trans step).mono (by omega)
    · next e rest read =>
      rw [read] at step
      by_cases closing : rest.lookahead = some ')'
      · have closed := Scanner.charged_skip closing (by decide)
        simp only [Scanner.expect, closing, if_true]
        exact ((opened.trans step).trans closed).mono (by omega)
      · simp only [Scanner.expect, closing, if_false]
        exact (opened.trans step).mono (by omega)

theorem within_factorOf {inner : Option (Parser (Watched σ) Expr)}
    (within : ∀ p ∈ inner, p.Within 0 3) : (factorOf inner).Within (-3) 0 := by
  intro s
  simp only [factorOf]
  split
  · next c present =>
    split
    · next letter =>
      have consumes := (Scanner.onward_advance_identifier s).consumes_one present
        (Text.isBlank_of_isLetter letter)
      exact (Scanner.Onward.identifier s).charged consumes
    · split
      · next digit =>
        have consumes := (Scanner.onward_advance_integer present digit).consumes_one present
          (Text.isBlank_of_isDigit digit)
        have charged := (Scanner.Onward.integer s).charged consumes
        unfold number
        split
        · next read =>
          rw [read] at charged
          exact charged
        · next read =>
          rw [read] at charged
          exact charged.mono (by omega)
      · split
        · next paren => exact charges_group within (paren ▸ present)
        · exact .refl s
  · exact .refl s

theorem Within.productOver {factor : Parser (Watched σ) Expr} (h : factor.Within (-2) 1)
    {depth : Nat} (shallow : depth ≤ nestingLimit) : (productOver depth factor).Within (-1) 2 :=
  (h.chain (by omega) .multiplicative).noting shallow

theorem Within.sumOver {factor : Parser (Watched σ) Expr} (h : factor.Within (-2) 1)
    {depth : Nat} (shallow : depth ≤ nestingLimit) : (sumOver depth factor).Within 0 3 :=
  ((h.productOver shallow).chain (by omega) .additive).noting shallow

/-- A character pays for three calls. The call of a factor takes one of them, so that two are left
for those of the product and the sum it may be the start of. -/
theorem within_factorAt {depth : Nat} (shallow : depth ≤ nestingLimit) :
    (factorAt depth : Parser (Watched σ) Expr).Within (-2) 1 := by
  fun_induction factorAt (σ := σ) depth with
  | case1 depth ih =>
    refine (within_factorOf ?_).noting shallow
    intro p member
    by_cases fits : depth < nestingLimit
    · rw [if_pos fits] at member
      obtain rfl := Option.some.inj member
      exact (ih fits fits).sumOver fits
    · simp [if_neg fits] at member

theorem within_inner {depth : Nat} {inner : Parser (Watched σ) Expr}
    (member : inner ∈ if depth < nestingLimit then some (sumAt (depth + 1)) else none) :
    inner.Within 0 3 := by
  by_cases fits : depth < nestingLimit
  · rw [if_pos fits] at member
    obtain rfl := Option.some.inj member
    exact (within_factorAt fits).sumOver fits
  · simp [if_neg fits] at member

/-- A call does what it does unwatched, is noted at its depth, and what it costs is known
beforehand. -/
structure Bounded (depth : Nat) (watched : Parser (Watched σ) Expr) (plain : Parser σ Expr)
    (bound : Nat) (s : Scanner (Watched σ)) : Prop where
  mirrors : plain.run s.forget = ((watched.run s).1, (watched.run s).2.forget)
  calls : ∃ made, (watched.run s).2.source.calls = made ++ depth :: s.source.calls ∧
    (∀ depth ∈ made, depth ≤ nestingLimit) ∧ made.length + 1 ≤ bound

theorem bounded_noting {depth : Nat} {watched : Parser (Watched σ) Expr} {plain : Parser σ Expr}
    (mirrors : (watched.noting depth).Mirrors plain) (within : watched.Within price debt)
    (free : price ≤ 2) (owing : debt ≤ 2) {s : Scanner (Watched σ)} {length : Nat}
    (short : s.upcoming.length ≤ length) :
    Bounded depth (watched.noting depth) plain (3 * (length + 1)) s := by
  refine ⟨mirrors s, ?_⟩
  have charges : (s.note depth).Charges 2 2 (watched.run (s.note depth)) :=
    (Scanner.Charged.refl _).before (within _) (by omega) (by omega)
  have charged : (s.note depth).Charged 2 (watched.run (s.note depth)).2 := by
    rcases read : watched.run (s.note depth) with ⟨_ | _, rest⟩
    all_goals
      rw [read] at charges
      exact charges
  obtain ⟨made, before, shallow, cost⟩ := charged
  have few : Text.visibleCount s.upcoming ≤ s.upcoming.length := List.countP_le_length
  rw [Scanner.upcoming_note] at cost
  exact ⟨made, before, shallow, by omega⟩

theorem bounded_at {depth : Nat} (shallow : depth ≤ nestingLimit) {s : Scanner (Watched σ)}
    {length : Nat} (short : s.upcoming.length ≤ length) :
    Bounded depth (factorAt depth) (factor (nestingLimit - depth)) (3 * (length + 1)) s ∧
    Bounded depth (productAt depth) (product (nestingLimit - depth)) (3 * (length + 1)) s ∧
    Bounded depth (sumAt depth) (sum (nestingLimit - depth)) (3 * (length + 1)) s := by
  have mirrors := mirrors_factorAt (σ := σ) depth
  have within := within_factorAt (σ := σ) shallow
  refine ⟨?_, ?_, ?_⟩
  · rw [factorAt_eq] at mirrors ⊢
    exact bounded_noting mirrors (within_factorOf fun _ => within_inner) (by omega) (by omega) short
  · exact bounded_noting (mirrors.productOver depth) (within.chain (by omega) .multiplicative)
      (by omega) (by omega) short
  · exact bounded_noting (mirrors.sumOver depth)
      ((within.productOver shallow).chain (by omega) .additive) (by omega) (by omega) short

end Parser

namespace Scanner

/-- A source that yields a text is asked once for each character drawn from it and once more at its
end, whatever is done with the scanner over it, and never again after that. No parser succeeds
without taking a character that is not blank, no round of a loop without taking two. And a call, at
whatever depth, makes no call beyond the limit and at most three for each character of the text and
three more, so it ends. -/
theorem playThrough_progress (source : σ) (text : String) (yields : Source.Yields source text)
    (operations : List Operation) :
    haveI := yields.ends
    let start := ofSource (Source.watched source)
    let s := start.playThrough operations
    (start.play operations = (ofSource source).play operations ∧
      s.forget = (ofSource source).playThrough operations) ∧
    (∃ last, (∀ c, last ≠ .char c) ∧
      Source.readings s.source.requests source =
        (s.drawn text.toList).map .char ++ if s.atEnd then [last] else []) ∧
    s.source.requests = (s.drawn text.toList).length + (if s.atEnd then 1 else 0) ∧
    s.source.requests ≤ text.length + 1 ∧
    (s.atEnd = true → ∀ more, (s.playThrough more).source.requests = s.source.requests) ∧
    (∀ room, (Parser.factor room : Parser σ Expr).Progresses ∧
      (Parser.product room : Parser σ Expr).Progresses ∧
      (Parser.sum room : Parser σ Expr).Progresses) ∧
    (∀ (room : Nat) (power : Power) (t rest : Scanner σ) (op : Operator) (right : Expr),
      t.operator? = some op → op.power = power →
      (Parser.ofOperand room power).run t.skip = (.ok right, rest) →
      ∀ left, Parser.Round power (Parser.ofOperand room power) left t
        (left.join op t.position right) (rest.record (.reduced op t.position))) ∧
    ∀ depth ≤ nestingLimit,
      Parser.Bounded depth (.factorAt depth) (.factor (nestingLimit - depth))
        (3 * (text.length + 1)) s ∧
      Parser.Bounded depth (.productAt depth) (.product (nestingLimit - depth))
        (3 * (text.length + 1)) s ∧
      Parser.Bounded depth (.sumAt depth) (.sum (nestingLimit - depth))
        (3 * (text.length + 1)) s := by
  have ends := yields.ends
  intro start s
  have reached : start.Onward s := onward_playThrough _ operations
  have ahead : s.Ahead := (ahead_ofSource source).onward reached
  have along : s.Along text.toList := (along_watched yields).onward reached
  have within := along.within
  rw [String.length_toList] at within
  refine ⟨⟨?_, ?_⟩, along.readings_eq yields ahead, ?_, ?_, ?_, ?_, ?_, ?_⟩
  · rw [← play_forget, ← ofSource_forget]
  · rw [← playThrough_forget, ← ofSource_forget]
  · exact ahead.trans along.length_drawn.symm
  · rw [ahead]
    omega
  · intro ended more
    exact congrArg (·.source.requests) ((onward_playThrough s more).untraced_of_end ended)
  · intro room
    exact ⟨Parser.progresses_factor room, Parser.progresses_ofPower room .multiplicative,
      Parser.progresses_ofPower room .additive⟩
  · intro room power t rest op right found same read left
    exact Parser.round_of_operand (Parser.progresses_ofOperand room power) found same read left
  · intro depth shallow
    apply Parser.bounded_at shallow
    rw [along.upcoming, List.length_drop, String.length_toList]
    omega

end Scanner

/-- A source that ends after a text and then goes on for ever. -/
structure Resuming where
  text : List Char
  asked : Nat
  deriving DecidableEq

namespace Resuming

def next (r : Resuming) : Reading × Resuming :=
  (if r.asked = r.text.length then .ended else .char (r.text.getD r.asked 'y'),
    { r with asked := r.asked + 1 })

theorem not_endsAfter {r : Resuming} (past : r.text.length < r.asked) (count : Nat) :
    ¬ Source.EndsAfter next count r := by
  intro ends
  induction ends with
  | now spent => exact spent _ (if_neg (Nat.ne_of_gt past))
  | later given _ ih =>
    obtain ⟨_, rfl⟩ := Prod.mk.inj given
    exact ih (Nat.lt_succ_of_lt past)

instance : Source Resuming where
  next := next
  budget r := r.text.length - r.asked
  budget_lt {r rest c count} given ends := by
    obtain ⟨answer, rfl⟩ := Prod.mk.inj given
    have before : ¬ r.text.length < r.asked := fun past => not_endsAfter past count ends
    have inside : r.asked ≠ r.text.length := by
      intro here
      simp [here] at answer
    simp only
    omega

end Resuming

namespace Scanner

theorem yields_resuming : Source.Yields (⟨"(1 )".toList, 0⟩ : Resuming) "(1 )" :=
  ⟨.ended, by simp, by decide⟩

/-- Although it would go on for ever after its end, the source is not asked to, whatever is done
after the parse. -/
theorem playThrough_progress_resuming :
    haveI := yields_resuming.ends
    let s := (ofSource (Source.watched (⟨"(1 )".toList, 0⟩ : Resuming))).playThrough [.parse]
    s.atEnd = true ∧ s.source.requests = 5 ∧ ¬ Source.Ends s.source.source ∧
      ∀ more, (s.playThrough more).source.requests = 5 := by
  intro s
  have ended : s.atEnd = true := by decide +kernel
  have count : s.source.requests = 5 := by decide +kernel
  have left : s.source.source = ⟨"(1 )".toList, 5⟩ := by decide +kernel
  obtain ⟨_, _, _, _, stays, _⟩ := playThrough_progress _ _ yields_resuming [.parse]
  refine ⟨ended, count, ?_, ?_⟩
  · rintro ⟨count, ends⟩
    rw [left] at ends
    exact Resuming.not_endsAfter (by decide) count ends
  · intro more
    rw [stays ended more, count]

end Scanner

end Reckoner
