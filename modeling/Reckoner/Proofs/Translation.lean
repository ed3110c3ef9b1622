import Reckoner.Proofs.Tandem

/-! A scanner goes on as one that starts where it stands. All that it remembers of what it has taken
is how much that was, and this shows in the places of its answers and in nothing else
(`perform_translated`). The last end is remembered too, but a token sets it anew before any span is
closed. -/
namespace Reckoner

/-- The same lookahead so many characters further. -/
def View.Moved (distance : Nat) (v w : View) : Prop :=
  v.lookahead = w.lookahead ∧ v.position = w.position + distance

namespace Scanner

variable {σ τ : Type} [Source σ] [Source τ]

/-- Two scanners with the same to come, the one of an input that is longer by so much. -/
structure Displaced (distance : Nat) (s : Scanner σ) (t : Scanner τ) : Prop where
  upcoming : s.upcoming = t.upcoming
  extent : s.extent = t.extent + distance

namespace Displaced

variable {distance : Nat} {s : Scanner σ} {t : Scanner τ}

theorem lookahead (displaced : Displaced distance s t) : s.lookahead = t.lookahead := by
  rw [← head?_upcoming, displaced.upcoming, head?_upcoming]

/-- The input is longer by what has already been taken of it. -/
theorem position (displaced : Displaced distance s t) : s.position = t.position + distance := by
  have extent := displaced.extent
  simp only [Scanner.extent, displaced.upcoming] at extent
  omega

theorem moved (displaced : Displaced distance s t) : s.view.Moved distance t.view :=
  ⟨displaced.lookahead, displaced.position⟩

theorem identifier (displaced : Displaced distance s t) :
    s.identifier.1 = t.identifier.1 ∧ Displaced distance s.identifier.2 t.identifier.2 := by
  refine ⟨?_, ?_, ?_⟩
  · rw [identifier_fst, identifier_fst, displaced.lookahead, displaced.upcoming]
  · rw [upcoming_identifier, upcoming_identifier, displaced.upcoming]
  · rw [extent_identifier, extent_identifier, displaced.extent]

theorem tandem (distance : Nat) :
    Tandem (fun _ => True) (Displaced distance : Scanner σ → Scanner τ → Prop) distance where
  need := fun _ _ => trivial
  lookahead := lookahead
  position := position
  record := fun displaced _ _ => ⟨displaced.upcoming, displaced.extent⟩
  skip := fun displaced _ =>
    ⟨by rw [upcoming_skip, upcoming_skip, displaced.upcoming],
      by rw [extent_skip, extent_skip, displaced.extent]⟩
  identifier := fun displaced _ => displaced.identifier
  integer := fun displaced _ =>
    ⟨by rw [displaced.upcoming], by rw [upcoming_integer, upcoming_integer, displaced.upcoming],
      by rw [extent_integer, extent_integer, displaced.extent]⟩

end Displaced

theorem displaced_ofText {input : List Char} {s : Scanner σ} (along : s.Along input)
    (settled : s.Settled) :
    Displaced s.position s (ofText (String.ofList (input.drop s.position))) := by
  have bare : s.upcoming.dropWhile Text.isBlank = s.upcoming := by
    cases present : s.lookahead with
    | none => rw [upcoming_eq_nil.mpr present, List.dropWhile_nil]
    | some c => rw [upcoming_of_some present, List.dropWhile_cons_of_neg (by simp [settled c present])]
  constructor
  · rw [ofText, upcoming_ofSource, Source.yielded_text, String.toList_ofList, ← along.upcoming, bare]
  · rw [ofText, extent_ofSource, Source.yielded_text, String.toList_ofList, ← along.upcoming,
      Scanner.extent, Nat.add_comm]

/-- Whatever has been taken of a text, every operation answers as it does at the start of the rest of
the text, but that all places in its answer are so much further on, and so is the scanner it leaves.
The same goes for one operation after another. -/
theorem perform_translated (text : String) (operations : List Operation) :
    let s := (ofText text).playThrough operations
    let fresh := ofText (String.ofList (text.toList.drop s.position))
    (∀ operation, (s.perform operation).1 = (fresh.perform operation).1.shift s.position ∧
      (s.perform operation).2.view.Moved s.position (fresh.perform operation).2.view) ∧
    ∀ more, List.Forall₂ (fun x y => x.1 = y.1.shift s.position ∧ x.2.Moved s.position y.2)
      (s.play more) (fresh.play more) := by
  intro s fresh
  have along := (along_ofText text).onward (onward_playThrough _ operations)
  have settled := settled_playThrough (settled_ofText text) operations
  have start : Displaced s.position s fresh := displaced_ofText along settled
  have tandem := Displaced.tandem (σ := List Char) (τ := List Char) s.position
  refine ⟨fun operation => ?_, fun more => ?_⟩
  · obtain ⟨same, after⟩ := tandem.perform start operation trivial
    exact ⟨same, after.moved⟩
  · exact tandem.play Displaced.moved start more trivial

end Scanner

end Reckoner
