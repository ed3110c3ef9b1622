import Reckoner.Proofs.Tandem

/-! What has not come into view cannot matter. Two inputs that begin alike and go on differently are
parsed in step (`Twin.lockstep`) as long as the parse has not come to where they part, and so is
anything else done with them (`Twin.tandem`). -/
namespace Reckoner.Scanner

variable {σ τ : Type} [Source σ] [Source τ]

/-- More is to come than a tail of the input, so that the lookahead is before it. -/
def Short (tail : List Char) (s : Scanner σ) : Prop := tail.length < s.upcoming.length

theorem Onward.upcoming_length_le {s u : Scanner σ} (h : s.Onward u) :
    u.upcoming.length ≤ s.upcoming.length := by
  refine h.keeps (P := fun v => v.upcoming.length ≤ s.upcoming.length) ?_ ?_ (Nat.le_refl _)
  · intro v before
    rw [upcoming_advance, List.length_tail]
    omega
  · exact fun _ _ before => before

theorem Short.of_onward {tail : List Char} {s u : Scanner σ} (h : s.Onward u)
    (later : u.Short tail) : s.Short tail :=
  Nat.lt_of_lt_of_le later h.upcoming_length_le

/-- Scanners at the same place of inputs that are the same for one character at least, and then go
on with a tail each. -/
structure Twin (tail other : List Char) (s : Scanner σ) (t : Scanner τ) : Prop where
  position : s.position = t.position
  lastEnd : s.lastEnd = t.lastEnd
  upcoming : ∃ c cs, s.upcoming = c :: cs ++ tail ∧ t.upcoming = c :: cs ++ other

namespace Twin

variable {tail other : List Char} {s : Scanner σ} {t : Scanner τ}

theorem lookahead (twin : Twin tail other s t) : s.lookahead = t.lookahead := by
  obtain ⟨c, cs, first, second⟩ := twin.upcoming
  rw [← head?_upcoming, ← head?_upcoming, first, second]
  rfl

theorem view (twin : Twin tail other s t) : s.view = t.view := by
  rw [Scanner.view, Scanner.view, twin.lookahead, twin.position, twin.lastEnd]

theorem record (twin : Twin tail other s t) (a b : Event) :
    Twin tail other (s.record a) (t.record b) := ⟨twin.position, twin.lastEnd, twin.upcoming⟩

theorem advance (twin : Twin tail other s t) (later : s.advance.Short tail) :
    Twin tail other s.advance t.advance := by
  have shown := twin.lookahead
  obtain ⟨c, cs, first, second⟩ := twin.upcoming
  have present : s.lookahead = some c := by rw [← head?_upcoming, first]; rfl
  have present' : t.lookahead = some c := shown.symm.trans present
  constructor
  · rw [position_advance present, position_advance present', twin.position]
  · rw [lastEnd_advance present, lastEnd_advance present', twin.lastEnd, twin.position]
  · -- The next character still is one that both have.
    rw [Short, upcoming_advance, first] at later
    rw [upcoming_advance, upcoming_advance, first, second]
    cases cs with
    | nil => simp at later
    | cons d ds => exact ⟨d, ds, rfl, rfl⟩

theorem takeFrom (accept : Char → Bool) (taken : List Char) (twin : Twin tail other s t)
    (later : (s.takeFrom accept taken).2.Short tail) :
    (s.takeFrom accept taken).1 = (t.takeFrom accept taken).1 ∧
      Twin tail other (s.takeFrom accept taken).2 (t.takeFrom accept taken).2 := by
  have shown := twin.lookahead
  fun_induction Scanner.takeFrom accept taken s generalizing t with
  | case1 taken s c present accepted ih =>
    have next := twin.advance (later.of_onward (.takeFrom accept (c :: taken) s.advance))
    rw [takeFrom_of_some (shown.symm.trans present), if_pos accepted]
    exact ih next later next.lookahead
  | case2 taken s c present refused =>
    rw [takeFrom_of_some (shown.symm.trans present), if_neg refused]
    exact ⟨rfl, twin⟩
  | case3 taken s absent =>
    rw [takeFrom_of_none (shown.symm.trans absent)]
    exact ⟨rfl, twin⟩

theorem skipBlanks (twin : Twin tail other s t) (later : s.skipBlanks.Short tail) :
    Twin tail other s.skipBlanks t.skipBlanks :=
  (twin.takeFrom Text.isBlank [] later).2

theorem skip (twin : Twin tail other s t) (later : s.skip.Short tail) :
    Twin tail other s.skip t.skip :=
  (twin.advance (later.of_onward (.skipBlanks _))).skipBlanks later

theorem identifier (twin : Twin tail other s t) (later : s.identifier.2.Short tail) :
    s.identifier.1 = t.identifier.1 ∧ Twin tail other s.identifier.2 t.identifier.2 := by
  have shown := twin.lookahead
  have run : (s.advance.takeWhile Text.isLetterOrNumeric).2.Short tail :=
    later.of_onward ((Onward.skipBlanks _).record _)
  have next := twin.advance (run.of_onward (.takeFrom ..))
  obtain ⟨name, after⟩ := next.takeFrom Text.isLetterOrNumeric [] run
  rw [takeFrom_fst, takeFrom_fst, upcoming_advance, upcoming_advance] at name
  refine ⟨?_, (after.skipBlanks later).record _ _⟩
  rw [identifier_fst, identifier_fst, shown]
  exact congrArg (fun run => String.ofList (_ :: run)) name

theorem integer (twin : Twin tail other s t) (later : s.integer.2.Short tail) :
    s.upcoming.takeWhile Char.isDigit = t.upcoming.takeWhile Char.isDigit ∧
      Twin tail other s.integer.2 t.integer.2 := by
  rw [integer_snd] at later
  have run : (s.takeWhile Char.isDigit).2.Short tail := later.of_onward (.skipBlanks _)
  obtain ⟨digits, after⟩ := twin.takeFrom Char.isDigit [] run
  rw [takeFrom_fst, takeFrom_fst] at digits
  rw [integer_snd, integer_snd]
  exact ⟨digits, (after.skipBlanks later).record _ _⟩

/-- A run of characters that reaches as far as the tail is no shorter on the other side. -/
theorem isPrefix_run {accept : Char → Bool} (twin : Twin tail other s t)
    (reaches : s.upcoming.dropWhile accept = tail) :
    s.upcoming.takeWhile accept <+: t.upcoming.takeWhile accept := by
  have all : ∀ c ∈ s.upcoming.takeWhile accept, accept c = true :=
    fun _ => List.mem_takeWhile_imp
  obtain ⟨c, cs, first, second⟩ := twin.upcoming
  have split : s.upcoming.takeWhile accept ++ tail = c :: cs ++ tail := by
    rw [← first, ← reaches, List.takeWhile_append_dropWhile]
  have run := List.append_cancel_right split
  rw [second, ← run, List.takeWhile_append_of_pos all]
  exact List.prefix_append ..

theorem tandem (tail other : List Char) :
    Tandem (Short tail) (Twin tail other : Scanner σ → Scanner τ → Prop) 0 where
  need := fun onward later => later.of_onward onward
  lookahead := lookahead
  position := position
  record := record
  skip := skip
  identifier := identifier
  integer := integer

/-- Inputs are parsed in step where they have not parted yet. Even the places of the nodes are the
same. -/
theorem lockstep (tail other : List Char) :
    Lockstep (Short tail) (Twin tail other : Scanner σ → Scanner τ → Prop) Eq := by
  have steps := (tandem tail other : Tandem _ (Twin _ _ : Scanner σ → Scanner τ → Prop) 0).lockstep
  simpa only [Expr.shift_zero] using steps

end Twin

theorem twin_ofText {front : List Char} (tail other : List Char) (nonempty : front ≠ [])
    (later : (ofText (String.ofList (front ++ tail))).Short tail) :
    Twin tail other (ofText (String.ofList (front ++ tail)))
      (ofText (String.ofList (front ++ other))) := by
  obtain ⟨c, cs, rfl⟩ := List.exists_cons_of_ne_nil nonempty
  have start : Twin tail other (load (String.ofList (c :: cs ++ tail)).toList inferInstance 0 0 [])
      (load (String.ofList (c :: cs ++ other)).toList inferInstance 0 0 []) := by
    constructor
    · rw [position_load, position_load]
    · rw [lastEnd_load, lastEnd_load]
    · exact ⟨c, cs, by simp, by simp⟩
  exact start.skipBlanks later

end Reckoner.Scanner
