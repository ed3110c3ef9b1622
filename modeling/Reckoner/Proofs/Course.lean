import Reckoner.Operation
import Reckoner.Proofs.Grammar

/-! Where a course of operations can lead a scanner. However it is dealt with, a scanner takes one
character after another and notes events (`Onward`); what these two keep, every course keeps. On
the way through a text its position therefore decides everything else it holds: the lookahead, what
is left in the source and the last end (`playThrough_determined`). -/
namespace Reckoner

variable {σ : Type} [Source σ]

namespace Scanner

/-- One scanner comes from another by taking characters and recording events. -/
inductive Onward (s : Scanner σ) : Scanner σ → Prop where
  | here : Onward s s
  | advance {t : Scanner σ} (before : Onward s t) : Onward s t.advance
  | record {t : Scanner σ} (before : Onward s t) (event : Event) : Onward s (t.record event)

namespace Onward

variable {s t u : Scanner σ}

theorem trans (first : Onward s t) (second : Onward t u) : Onward s u := by
  induction second with
  | here => exact first
  | advance _ ih => exact ih.advance
  | record _ event ih => exact ih.record event

/-- What every character taken keeps and every event recorded keeps is kept all the way. -/
theorem keeps {P : Scanner σ → Prop} (h : Onward s t) (taking : ∀ u, P u → P u.advance)
    (noting : ∀ u event, P u → P (u.record event)) (start : P s) : P t := by
  induction h with
  | here => exact start
  | advance _ ih => exact taking _ ih
  | record _ event ih => exact noting _ event ih

theorem takeFrom (accept : Char → Bool) (taken : List Char) (s : Scanner σ) :
    Onward s (s.takeFrom accept taken).2 := by
  fun_induction Scanner.takeFrom accept taken s with
  | case1 taken s c present accepted ih => exact (advance here).trans ih
  | case2 | case3 => exact here

theorem skipBlanks (s : Scanner σ) : Onward s s.skipBlanks := takeFrom ..

theorem skip (s : Scanner σ) : Onward s s.skip := (advance here).trans (skipBlanks _)

theorem expect (c : Char) (s : Scanner σ) : Onward s (s.expect c).2 := by
  unfold Scanner.expect
  split
  · exact skip s
  · exact here

theorem identifier (s : Scanner σ) : Onward s s.identifier.2 :=
  (((advance here).trans (takeFrom ..)).trans (skipBlanks _)).record _

theorem integer (s : Scanner σ) : Onward s s.integer.2 := by
  rw [integer_snd]
  exact ((takeFrom ..).trans (skipBlanks _)).record _

theorem takeOperator (s : Scanner σ) : Onward s s.takeOperator.2 := by
  unfold Scanner.takeOperator
  split
  · exact skip s
  · exact here

end Onward

end Scanner

theorem Descent.onward {part : Part} {room : Nat} {s rest : Scanner σ}
    {result : Except Diagnostic Expr} (h : Descent part room s result rest) : s.Onward rest := by
  induction h with
  | symbol => exact .identifier _
  | @number room s rest c value present other digit fits =>
    have onward := Scanner.Onward.integer s
    rwa [fits] at onward
  | @tooLarge room s rest c diagnostic present other digit exceeds =>
    have onward := Scanner.Onward.integer s
    rwa [exceeds] at onward
  | noFactor | tooDeep => exact .here
  | group _ _ _ ih => exact (Scanner.Onward.skip _).trans (ih.trans (.skip _))
  | unclosed _ _ _ ih | groupFails _ _ ih => exact (Scanner.Onward.skip _).trans ih
  | first _ ih | ended _ _ ih | firstFails _ ih => exact ih
  | again _ _ _ _ ihs iho => exact ((ihs.trans (.skip _)).trans iho).record _
  | againFails _ _ _ _ ihs iho => exact (ihs.trans (.skip _)).trans iho

namespace Scanner

theorem onward_parse (s : Scanner σ) : s.Onward (Parser.parse s).2 := by
  obtain ⟨event, parsed⟩ := Parser.parse_eq s
  rw [parsed]
  exact (Parser.descent_ofPower nestingLimit .additive s).onward.record event

theorem onward_perform (s : Scanner σ) (operation : Operation) :
    s.Onward (s.perform operation).2 := by
  cases operation with
  | skip => exact .skip s
  | expect c => exact .expect c s
  | identifier => exact .identifier s
  | integer => exact .integer s
  | peekOperator => exact .here
  | takeOperator => exact .takeOperator s
  | factor => exact (Parser.descent_factor nestingLimit s).onward
  | product => exact (Parser.descent_ofPower nestingLimit .multiplicative s).onward
  | sum => exact (Parser.descent_ofPower nestingLimit .additive s).onward
  | parse => exact onward_parse s
  | parseComplete =>
    have same : (s.perform .parseComplete).2 = (Parser.parse s).2 := Parser.parseComplete_snd s
    rw [same]
    exact onward_parse s

theorem onward_playThrough (s : Scanner σ) (operations : List Operation) :
    s.Onward (s.playThrough operations) := by
  induction operations generalizing s with
  | nil => exact .here
  | cons operation operations ih => exact (onward_perform s operation).trans (ih _)

/-- Every operation leaves a scanner between tokens, whatever it is asked for and whether or not it
succeeds. -/
theorem settled_perform {s : Scanner σ} (settled : s.Settled) (operation : Operation) :
    (s.perform operation).2.Settled := by
  have sum := (Parser.descent_ofPower nestingLimit .additive s).settled settled
  have parse : (Parser.parse s).2.Settled := by
    obtain ⟨event, parsed⟩ := Parser.parse_eq s
    rw [parsed]
    exact sum
  cases operation with
  | skip => exact settled_skip s
  | expect c =>
    simp only [perform, expect]
    split
    · exact settled_skip s
    · exact settled
  | identifier => exact settled_identifier s
  | integer => exact settled_integer s
  | peekOperator => exact settled
  | takeOperator =>
    simp only [perform, takeOperator]
    split
    · exact settled_skip s
    · exact settled
  | factor => exact (Parser.descent_factor nestingLimit s).settled settled
  | product => exact (Parser.descent_ofPower nestingLimit .multiplicative s).settled settled
  | sum => exact sum
  | parse => exact parse
  | parseComplete =>
    have same : (s.perform .parseComplete).2 = (Parser.parse s).2 := Parser.parseComplete_snd s
    rw [same]
    exact parse

theorem settled_playThrough {s : Scanner σ} (settled : s.Settled) (operations : List Operation) :
    (s.playThrough operations).Settled := by
  induction operations generalizing s with
  | nil => exact settled
  | cons operation operations ih => exact ih (settled_perform settled operation)

theorem position_le_advance (s : Scanner σ) : s.position ≤ s.advance.position := by
  cases present : s.lookahead with
  | none => rw [advance_of_none present]
  | some c =>
    rw [position_advance present]
    exact Nat.le_succ _

theorem Onward.position_le {s t : Scanner σ} (h : s.Onward t) : s.position ≤ t.position :=
  h.keeps (fun u before => Nat.le_trans before (position_le_advance u))
    (fun _ _ before => before) (Nat.le_refl _)

/-- A scanner on its way through an input. -/
structure Along (input : List Char) (s : Scanner σ) : Prop where
  within : s.position ≤ input.length
  upcoming : s.upcoming = input.drop s.position
  lastEnd : s.lastEnd = (Text.trimEnd (input.take s.position)).length

end Scanner

namespace Text

theorem trimEnd_append_blank {c : Char} (blank : isBlank c = true) (cs : List Char) :
    trimEnd (cs ++ [c]) = trimEnd cs := by
  simp [trimEnd, blank]

theorem trimEnd_append_visible {c : Char} (visible : isBlank c = false) (cs : List Char) :
    trimEnd (cs ++ [c]) = cs ++ [c] := by
  simp [trimEnd, visible]

end Text

namespace Scanner

namespace Along

variable {input : List Char} {s t : Scanner σ}

theorem lookahead (along : s.Along input) : s.lookahead = input[s.position]? := by
  rw [← head?_upcoming, along.upcoming, List.head?_drop]

theorem position_of_end (along : s.Along input) (ended : s.lookahead = none) :
    s.position = input.length := by
  have within := along.within
  rw [along.lookahead, List.getElem?_eq_none_iff] at ended
  omega

theorem position_lt (along : s.Along input) {c : Char} (present : s.lookahead = some c) :
    s.position < input.length :=
  (List.getElem?_eq_some_iff.mp (along.lookahead.symm.trans present)).1

theorem record (along : s.Along input) (event : Event) : (s.record event).Along input :=
  ⟨along.within, along.upcoming, along.lastEnd⟩

/-- One character further. A blank moves the position and not the last end. -/
theorem advance (along : s.Along input) : s.advance.Along input := by
  cases present : s.lookahead with
  | none => rwa [advance_of_none present]
  | some c =>
    have here : input[s.position]? = some c := along.lookahead.symm.trans present
    have inside := along.position_lt present
    have moved := position_advance present
    have longer : input.take (s.position + 1) = input.take s.position ++ [c] := by
      simp [List.take_add_one, here]
    constructor
    · omega
    · rw [upcoming_advance, along.upcoming, moved, List.tail_drop]
    · rw [moved, longer]
      by_cases blank : Text.isBlank c = true
      · rw [Text.trimEnd_append_blank blank, ← along.lastEnd]
        simp [lastEnd_advance present, blank]
      · have visible : Text.isBlank c = false := by simpa using blank
        rw [Text.trimEnd_append_visible visible]
        simp [lastEnd_advance present, visible]
        omega

theorem onward (along : s.Along input) (h : s.Onward t) : t.Along input :=
  h.keeps (fun _ before => before.advance) (fun _ event before => before.record event) along

end Along

theorem along_ofSource (source : σ) [ends : Source.Ends source] :
    (ofSource source).Along (Source.yielded source) := by
  have start : (load source ends 0 0 []).Along (Source.yielded source) := by
    constructor
    · simp [position_load]
    · simp [position_load]
    · simp [position_load, lastEnd_load, Text.trimEnd]
  exact start.onward (.skipBlanks _)

theorem along_ofText (text : String) : (ofText text).Along text.toList := by
  have along := along_ofSource text.toList
  rwa [Source.yielded_text] at along

def untraced (s : Scanner σ) : Scanner σ := { s with trace := [] }

/-- The scanner of a text at a position. -/
def canonical (text : List Char) (position : Nat) : Scanner (List Char) where
  source := text.drop (position + 1)
  lookahead := text[position]?
  position := position
  lastEnd := (Text.trimEnd (text.take position)).length
  trace := []
  ends _ := inferInstance

theorem Onward.untraced_of_end {s t : Scanner σ} (h : s.Onward t) (ended : s.atEnd = true) :
    t.untraced = s.untraced := by
  have absent : s.lookahead = none := by simpa [atEnd] using ended
  have stays : t.lookahead = none ∧ t.untraced = s.untraced := by
    refine h.keeps (P := fun u => u.lookahead = none ∧ u.untraced = s.untraced) ?_ ?_ ⟨absent, rfl⟩
    · rintro u ⟨none, same⟩
      rw [advance_of_none none]
      exact ⟨none, same⟩
    · rintro u event ⟨none, same⟩
      exact ⟨none, same⟩
  exact stays.2

section OfText

variable {text : String} {s : Scanner (List Char)}

theorem source_load_of_end (cs : List Char) (ends : Source.Ends cs) (position lastEnd : Nat)
    (trace : List Event) (ended : (load cs ends position lastEnd trace).lookahead = none) :
    (load cs ends position lastEnd trace).source = [] := by
  cases cs with
  | nil => rfl
  | cons c cs => exact absurd ended (Option.some_ne_none c)

theorem source_of_end (h : (ofText text).Onward s) (ended : s.lookahead = none) :
    s.source = [] := by
  have start : (load text.toList inferInstance 0 0 []).Onward s := (Onward.skipBlanks _).trans h
  refine start.keeps (P := fun u => u.lookahead = none → u.source = []) ?_ ?_ ?_ ended
  · intro u before
    cases present : u.lookahead with
    | none => rwa [advance_of_none present]
    | some c =>
      rw [advance_of_some present]
      exact source_load_of_end _ _ _ _ _
  · exact fun _ _ before => before
  · exact source_load_of_end _ _ _ _ _

theorem untraced_eq_canonical (h : (ofText text).Onward s) :
    s.untraced = canonical text.toList s.position := by
  have along := (along_ofText text).onward h
  have left : s.source = text.toList.drop (s.position + 1) := by
    rw [← List.tail_drop, ← along.upcoming]
    cases present : s.lookahead with
    | none => simp [source_of_end h present, upcoming, present]
    | some c => simp [upcoming, present]
  simp only [untraced, canonical, left, along.lookahead, along.lastEnd]

/-- Either the scanner shows a character that is not blank and has taken no more than it, or it has
taken the whole text. -/
theorem reading_or_ended (h : (ofText text).Onward s) (settled : s.Settled) :
    (s.atEnd = false ∧ s.position < text.length ∧ text.toList[s.position]? = some s.peek ∧
      Text.isBlank s.peek = false ∧ s.source = text.toList.drop (s.position + 1)) ∨
    (s.atEnd = true ∧ s.position = text.length ∧ s.peek = '\x00' ∧ s.source = []) := by
  have along := (along_ofText text).onward h
  rw [← String.length_toList]
  cases present : s.lookahead with
  | none =>
    refine .inr ⟨by simp [atEnd, present], along.position_of_end present, ?_, ?_⟩
    · simp [peek, present, endMark]
    · exact source_of_end h present
  | some c =>
    have shown := along.lookahead.symm.trans present
    have seen : s.peek = c := by simp [peek, present]
    rw [seen]
    refine .inl ⟨by simp [atEnd, present], along.position_lt present, shown, ?_, ?_⟩
    · exact settled c present
    · exact congrArg Scanner.source (untraced_eq_canonical h)

end OfText

/-- Whatever is done with the scanner of a text, it never goes back, its position decides all that it
holds, no blank is ever its lookahead, and the end of the text is where it stays. A null character of
the text is a lookahead like any other. -/
theorem playThrough_determined (text : String) (operations : List Operation) :
    let s := (ofText text).playThrough operations
    ((s.atEnd = false ∧ s.position < text.length ∧ text.toList[s.position]? = some s.peek ∧
        Text.isBlank s.peek = false ∧ s.source = text.toList.drop (s.position + 1)) ∨
      (s.atEnd = true ∧ s.position = text.length ∧ s.peek = '\x00' ∧ s.source = [])) ∧
    s.lastEnd = (Text.trimEnd (text.toList.take s.position)).length ∧
    (∀ operation, s.position ≤ (s.perform operation).2.position) ∧
    (s.atEnd = true → ∀ more, (s.playThrough more).untraced = s.untraced) ∧
    ∀ others, ((ofText text).playThrough others).position = s.position →
      ((ofText text).playThrough others).untraced = s.untraced := by
  intro s
  have reached : (ofText text).Onward s := onward_playThrough _ operations
  have settled : s.Settled := settled_playThrough (settled_ofText text) operations
  refine ⟨reading_or_ended reached settled, ?_, ?_, ?_, ?_⟩
  · exact ((along_ofText text).onward reached).lastEnd
  · intro operation
    exact (onward_perform s operation).position_le
  · intro ended more
    exact (onward_playThrough s more).untraced_of_end ended
  · intro others same
    rw [untraced_eq_canonical (onward_playThrough _ others), same, untraced_eq_canonical reached]

/-- A null character and the end after it look the same and are told apart. Taking it alone and
taking it for an identifier lead to the same place, and there the scanner stays. -/
theorem playThrough_determined_null :
    ((ofText "\x00 ").playThrough []).atEnd = false ∧ ((ofText "\x00 ").playThrough []).peek = '\x00' ∧
    ((ofText "\x00 ").playThrough [.skip]).atEnd = true ∧
    ((ofText "\x00 ").playThrough [.skip]).peek = '\x00' ∧
    (∀ more, (((ofText "\x00 ").playThrough [.skip]).playThrough more).untraced =
      ((ofText "\x00 ").playThrough [.skip]).untraced) ∧
    ((ofText "\x00 ").playThrough [.identifier]).untraced =
      ((ofText "\x00 ").playThrough [.skip]).untraced := by
  have ended : ((ofText "\x00 ").playThrough [.skip]).atEnd = true := by decide +kernel
  have same : ((ofText "\x00 ").playThrough [.identifier]).position =
      ((ofText "\x00 ").playThrough [.skip]).position := by decide +kernel
  obtain ⟨_, _, _, stays, determined⟩ := playThrough_determined "\x00 " [.skip]
  refine ⟨by decide +kernel, by decide +kernel, ended, by decide +kernel, stays ended, ?_⟩
  exact determined [.identifier] same

end Scanner

end Reckoner
