import Reckoner.Text.Pattern

/-! The engine of patterns does what it has to. Its candidates at a place are exactly the matches
there (`mem_ways_iff`), and it looks at every place, so it finds a match if there is one
(`lawful_captures`). -/
namespace Reckoner.Text.Pattern

variable {before piece after : List Char} {groups : List (List Char)}

@[simp] theorem matches_start_iff :
    start.Matches before piece after groups ↔ before = [] ∧ piece = [] ∧ groups = [] := by
  constructor
  · rintro ⟨⟩
    exact ⟨rfl, rfl, rfl⟩
  · rintro ⟨rfl, rfl, rfl⟩
    exact .start

@[simp] theorem matches_stop_iff :
    stop.Matches before piece after groups ↔ after = [] ∧ piece = [] ∧ groups = [] := by
  constructor
  · rintro ⟨⟩
    exact ⟨rfl, rfl, rfl⟩
  · rintro ⟨rfl, rfl, rfl⟩
    exact .stop

@[simp] theorem matches_run_iff {intervals : Intervals} {quantifier : Quantifier} :
    (run intervals quantifier).Matches before piece after groups ↔
      (∀ c ∈ piece, intervals.Has c) ∧ quantifier.Allows piece.length ∧ groups = [] := by
  constructor
  · rintro ⟨⟩
    exact ⟨‹_›, ‹_›, rfl⟩
  · rintro ⟨all, count, rfl⟩
    exact .run all count

@[simp] theorem matches_group_iff {inner : Pattern} :
    inner.group.Matches before piece after groups ↔
      ∃ more, groups = piece :: more ∧ inner.Matches before piece after more := by
  constructor
  · rintro ⟨⟩
    exact ⟨_, rfl, ‹_›⟩
  · rintro ⟨more, rfl, inside⟩
    exact .group inside

@[simp] theorem matches_seq_iff {first second : Pattern} :
    (first.seq second).Matches before piece after groups ↔
      ∃ front back fore more, piece = front ++ back ∧ groups = fore ++ more ∧
        first.Matches before front (back ++ after) fore ∧
        second.Matches (before ++ front) back after more := by
  constructor
  · rintro ⟨⟩
    exact ⟨_, _, _, _, rfl, rfl, ‹_›, ‹_›⟩
  · rintro ⟨front, back, fore, more, rfl, rfl, left, right⟩
    exact .seq left right

/-- The pieces of a text from a set are those that do not go beyond the longest one. -/
theorem prefix_takeWhile_iff (accept : Char → Bool) {piece rest : List Char} :
    piece <+: rest.takeWhile accept ↔ piece <+: rest ∧ ∀ c ∈ piece, accept c = true := by
  constructor
  · intro h
    refine ⟨h.trans (List.takeWhile_prefix _), ?_⟩
    intro c member
    exact List.all_eq_true.mp List.all_takeWhile c (h.subset member)
  · rintro ⟨⟨after, rfl⟩, all⟩
    rw [List.takeWhile_append_of_pos all]
    exact List.prefix_append _ _

theorem mem_ways_run_iff {intervals : Intervals} {quantifier : Quantifier} {begins : Bool}
    {rest : List Char} :
    (piece, groups) ∈ (run intervals quantifier).ways begins rest ↔
      piece <+: rest ∧ (∀ c ∈ piece, intervals.Has c) ∧ quantifier.Allows piece.length ∧
        groups = [] := by
  have within : piece <+: rest.takeWhile (fun c => intervals.Has c) ↔
      piece <+: rest ∧ ∀ c ∈ piece, intervals.Has c := by
    simpa using prefix_takeWhile_iff fun c => decide (intervals.Has c)
  rw [← and_assoc, ← within]
  simp only [ways, List.mem_map, List.mem_filter, List.mem_reverse, List.mem_range,
    decide_eq_true_eq, Prod.mk.injEq]
  constructor
  · rintro ⟨count, ⟨few, allowed⟩, rfl, rfl⟩
    rw [List.length_take, Nat.min_eq_left (Nat.le_of_lt_succ few)]
    exact ⟨List.take_prefix _ _, allowed, rfl⟩
  · rintro ⟨front, allowed, rfl⟩
    exact ⟨piece.length, ⟨Nat.lt_succ_of_le front.length_le, allowed⟩,
      (List.prefix_iff_eq_take.mp front).symm, rfl⟩

/-- The candidates are the matches at the front. -/
theorem mem_ways_iff {p : Pattern} {rest : List Char} :
    (piece, groups) ∈ p.ways before.isEmpty rest ↔
      ∃ after, rest = piece ++ after ∧ p.Matches before piece after groups := by
  induction p generalizing before rest piece groups with
  | start =>
    cases before with
    | nil =>
      simp only [ways, List.isEmpty_nil, if_true, List.mem_singleton, Prod.mk.injEq,
        matches_start_iff, true_and]
      exact ⟨fun h => ⟨rest, by simp [h.1], h⟩, fun ⟨_, _, h⟩ => h⟩
    | cons => simp [ways]
  | stop =>
    cases rest with
    | nil =>
      simp only [ways, List.isEmpty_nil, if_true, List.mem_singleton, Prod.mk.injEq,
        matches_stop_iff]
      exact ⟨fun h => ⟨[], by simp [h.1], rfl, h⟩, fun ⟨_, _, _, h⟩ => h⟩
    | cons c cs =>
      simp only [ways, List.isEmpty_cons, Bool.false_eq_true, if_false, List.not_mem_nil,
        matches_stop_iff, false_iff]
      rintro ⟨_, split, rfl, rfl, _⟩
      contradiction
  | run intervals quantifier =>
    rw [mem_ways_run_iff]
    simp [List.IsPrefix, eq_comm]
  | group inner ih =>
    simp only [ways, List.mem_map, Prod.exists, Prod.mk.injEq, ih, matches_group_iff]
    constructor
    · rintro ⟨front, fore, ⟨after, split, inside⟩, rfl, rfl⟩
      exact ⟨after, split, fore, rfl, inside⟩
    · rintro ⟨after, split, more, rfl, inside⟩
      exact ⟨piece, more, ⟨after, split, inside⟩, rfl, rfl⟩
  | seq first second left right =>
    have empty (front : List Char) :
        (before.isEmpty && front.isEmpty) = (before ++ front).isEmpty := by
      cases before <;> rfl
    simp only [ways, List.mem_flatMap, List.mem_map, Prod.exists, Prod.mk.injEq, left, empty, right,
      matches_seq_iff]
    constructor
    · rintro ⟨front, fore, ⟨more, rfl, first⟩, back, next, ⟨after, split, second⟩, rfl, rfl⟩
      rw [List.drop_left] at split
      subst split
      exact ⟨after, by simp, front, back, fore, next, rfl, rfl, first, second⟩
    · rintro ⟨after, rfl, front, back, fore, next, rfl, rfl, first, second⟩
      exact ⟨front, fore, ⟨back ++ after, by simp, first⟩, back, next, ⟨after, by simp, second⟩,
        rfl, rfl⟩

/-- Every place is looked at. -/
theorem mem_waysWithin_iff {p : Pattern} {rest : List Char} :
    (piece, groups) ∈ p.waysWithin before.isEmpty rest ↔
      ∃ passed after, rest = passed ++ (piece ++ after) ∧
        p.Matches (before ++ passed) piece after groups := by
  induction rest generalizing before with
  | nil =>
    rw [waysWithin, mem_ways_iff]
    constructor
    · rintro ⟨after, split, matched⟩
      exact ⟨[], after, split, by rwa [List.append_nil]⟩
    · rintro ⟨passed, after, split, matched⟩
      obtain ⟨rfl, whole⟩ := List.append_eq_nil_iff.mp split.symm
      exact ⟨after, whole.symm, by rwa [List.append_nil] at matched⟩
  | cons c cs ih =>
    have begun : (before ++ [c]).isEmpty = false := by simp
    rw [waysWithin, List.mem_append, mem_ways_iff, ← begun, ih]
    constructor
    · rintro (⟨after, split, matched⟩ | ⟨passed, after, rfl, matched⟩)
      · exact ⟨[], after, split, by rwa [List.append_nil]⟩
      · refine ⟨c :: passed, after, rfl, ?_⟩
        rwa [List.append_assoc, List.singleton_append] at matched
    · rintro ⟨passed, after, split, matched⟩
      cases passed with
      | nil => exact .inl ⟨after, split, by rwa [List.append_nil] at matched⟩
      | cons d passed =>
        obtain ⟨rfl, rfl⟩ := List.cons.inj split
        refine .inr ⟨passed, after, rfl, ?_⟩
        rwa [List.append_assoc, List.singleton_append]

theorem lawful_captures : Lawful captures where
  sound {p text found} h := by
    obtain ⟨⟨piece, groups⟩, met, rfl⟩ := Option.map_eq_some_iff.mp h
    have member : (piece, groups) ∈ p.waysWithin ([] : List Char).isEmpty text.toList :=
      List.mem_of_head? met
    obtain ⟨before, after, split, matched⟩ := mem_waysWithin_iff.mp member
    exact ⟨before, piece, after, groups, by rw [split, List.append_assoc], matched, rfl⟩
  complete {p text} h before piece after groups split := by
    intro matched
    have none : p.waysWithin ([] : List Char).isEmpty text.toList = [] := by
      simpa [captures] using h
    have member : (piece, groups) ∈ p.waysWithin ([] : List Char).isEmpty text.toList :=
      mem_waysWithin_iff.mpr ⟨before, after, by rw [split, List.append_assoc], matched⟩
    rw [none] at member
    contradiction

end Reckoner.Text.Pattern
