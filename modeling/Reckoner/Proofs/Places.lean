import Reckoner.Proofs.Layout
import Reckoner.Text.Lines

/-! Where the search for a place ends. For a position inside a text it ends on the line around that
position, and the place counts the line feeds before it (`stands_placeOf`). There is only one such
line (`Stands.unique`), so this says all about the place. A position past the end has the place of the
last visible character, one column further (`placeOf_of_end`). -/
namespace Reckoner.Text

section Trimming

variable {cs : List Char} {i : Nat} {c : Char}

theorem trimEnd_append (front back : List Char) :
    trimEnd (front ++ back) = if trimEnd back = [] then trimEnd front else front ++ trimEnd back := by
  simp only [trimEnd, List.reverse_append, List.dropWhile_append, List.reverse_eq_nil_iff,
    List.isEmpty_iff]
  split <;> simp

theorem trimEnd_eq_nil_iff : trimEnd cs = [] ↔ ∀ c ∈ cs, isBlank c = true := by
  simp [trimEnd]

theorem trimEnd_isPrefix (cs : List Char) : trimEnd cs <+: cs := by
  obtain ⟨blanks, split, _⟩ := trimEnd_append_blanks cs
  exact ⟨blanks, split.symm⟩

theorem getElem?_trimEnd (here : cs[i]? = some c) (visible : isBlank c = false) :
    (trimEnd cs)[i]? = some c := by
  obtain ⟨blanks, split, blank⟩ := trimEnd_append_blanks cs
  rw [split] at here
  by_cases inside : i < (trimEnd cs).length
  · rwa [List.getElem?_append_left inside] at here
  · rw [List.getElem?_append_right (Nat.le_of_not_lt inside)] at here
    have last := blank c (List.mem_of_getElem? here)
    rw [visible] at last
    contradiction

/-- Up to its last visible character a text is trimmed. -/
theorem length_trimEnd_of_last (here : cs[i]? = some c) (visible : isBlank c = false)
    (last : ∀ c ∈ cs.drop (i + 1), isBlank c = true) : (trimEnd cs).length = i + 1 := by
  have inside := (List.getElem?_eq_some_iff.mp here).1
  have front : cs.take (i + 1) = cs.take i ++ [c] := by simp [List.take_add_one, here]
  have trimmed : trimEnd (cs.take (i + 1) ++ cs.drop (i + 1)) = cs.take i ++ [c] := by
    rw [trimEnd_append, if_pos (trimEnd_eq_nil_iff.mpr last), front, trimEnd_append_visible visible]
  rw [List.take_append_drop] at trimmed
  rw [trimmed, List.length_append, List.length_take, List.length_singleton]
  omega

end Trimming

/-- Lines as a text has them: a line feed ends each but perhaps the last, and is nowhere else. -/
inductive Ruled : List (List Char) → Prop where
  | nil : Ruled []
  | last {body : List Char} (proper : body ≠ []) (plain : '\n' ∉ body) : Ruled [body]
  | fed {body : List Char} {rest : List (List Char)} (plain : '\n' ∉ body) (ruled : Ruled rest) :
      Ruled ((body ++ ['\n']) :: rest)

theorem Ruled.consLine {ls : List (List Char)} (h : Ruled ls) (c : Char) :
    Ruled (consLine c ls) := by
  by_cases feed : c = '\n'
  · subst feed
    cases h with
    | nil => exact .fed List.not_mem_nil .nil
    | last proper plain => exact .fed List.not_mem_nil (.last proper plain)
    | fed plain ruled => exact .fed List.not_mem_nil (.fed plain ruled)
  · have other : '\n' ≠ c := Ne.symm feed
    cases h with
    | nil => exact .last (List.cons_ne_nil c []) (by simpa using other)
    | @last body proper plain =>
      simp only [Text.consLine, if_neg feed]
      exact .last (List.cons_ne_nil c body) (by simp [other, plain])
    | @fed body rest plain ruled =>
      have longer : '\n' ∉ c :: body := by simp [other, plain]
      simpa [Text.consLine, feed] using Ruled.fed longer ruled

theorem ruled_lines (cs : List Char) : Ruled (lines cs) := by
  induction cs with
  | nil => exact .nil
  | cons c cs ih => exact ih.consLine c

theorem lines_of_plain {cs : List Char} (proper : cs ≠ []) (plain : '\n' ∉ cs) :
    lines cs = [cs] := by
  have whole := flatten_lines cs
  have ruled := ruled_lines cs
  generalize lines cs = ls at whole ruled ⊢
  subst whole
  cases ruled with
  | nil => contradiction
  | last => simp
  | fed => simp at plain

/-- A line starts after this: after nothing, or after a line feed. -/
def Opens (before : List Char) : Prop := ∀ c, before.getLast? = some c → c = '\n'

/-- A whole line between what stands before it and after it. -/
inductive IsLine (before : List Char) : List Char → List Char → Prop where
  | fed {body after : List Char} (opens : Opens before) (plain : '\n' ∉ body) :
      IsLine before (body ++ ['\n']) after
  | last {body : List Char} (opens : Opens before) (plain : '\n' ∉ body) : IsLine before body []

theorem IsLine.opens {before line after : List Char} (h : IsLine before line after) :
    Opens before := by
  cases h <;> assumption

theorem IsLine.exists_body {before line after : List Char} (h : IsLine before line after) :
    ∃ body rest, line ++ after = body ++ rest ∧ line = body ++ rest.take 1 ∧
      (∀ c ∈ body, (c != '\n') = true) ∧ ∀ c, rest.head? = some c → (c != '\n') = false := by
  cases h with
  | @fed body after _ plain =>
    refine ⟨body, '\n' :: after, by simp, rfl, ?_, by simp⟩
    exact fun c member => by simpa using ne_of_mem_of_not_mem member plain
  | last _ plain =>
    refine ⟨line, [], by simp, by simp, ?_, by simp⟩
    exact fun c member => by simpa using ne_of_mem_of_not_mem member plain

theorem IsLine.unique {before line after line' after' : List Char} (h : IsLine before line after)
    (other : IsLine before line' after') (same : line ++ after = line' ++ after') :
    line = line' := by
  obtain ⟨body, rest, split, cut, plain, stops⟩ := h.exists_body
  obtain ⟨body', rest', split', cut', plain', stops'⟩ := other.exists_body
  rw [split, split'] at same
  obtain ⟨rfl, rfl⟩ := append_inj_of_stop plain plain' stops stops' same
  rw [cut, cut']

theorem IsLine.not_mem_take {before line after : List Char} (h : IsLine before line after)
    {column : Nat} (inside : column < line.length) : '\n' ∉ line.take column := by
  intro member
  cases h with
  | last _ plain => exact plain (List.mem_of_mem_take member)
  | fed _ plain =>
    rw [List.length_append, List.length_singleton] at inside
    rw [List.take_append_of_le_length (Nat.le_of_lt_succ inside)] at member
    exact plain (List.mem_of_mem_take member)

theorem IsLine.not_mem_trimEnd {before line after : List Char} (h : IsLine before line after) :
    '\n' ∉ trimEnd line := by
  cases h with
  | last _ plain => exact fun member => plain ((trimEnd_isPrefix _).mem member)
  | fed _ plain =>
    rw [trimEnd_append_blank (by decide)]
    exact fun member => plain ((trimEnd_isPrefix _).mem member)

/-- The place is on the line around a position of a text. -/
structure Stands (cs : List Char) (position : Nat) (place : Place) (before after : List Char) :
    Prop where
  split : cs = before ++ place.line ++ after
  isLine : IsLine before place.line after
  number : place.number = before.count '\n' + 1
  column : before.length + place.column = position
  inside : place.column < place.line.length

namespace Stands

variable {cs before after : List Char} {position : Nat} {place : Place}

theorem getElem? (h : Stands cs position place before after) :
    place.line[place.column]? = cs[position]? := by
  rw [h.split, List.append_assoc, ← h.column, List.getElem?_append_right (Nat.le_add_right ..),
    Nat.add_sub_cancel_left, List.getElem?_append_left h.inside]

/-- On its way to the position the line has no line feed. -/
theorem count_take (h : Stands cs position place before after) :
    (cs.take position).count '\n' = before.count '\n' := by
  have way : cs.take position = before ++ place.line.take place.column := by
    rw [h.split, List.append_assoc, ← h.column, List.take_length_add_append,
      List.take_append_of_le_length (Nat.le_of_lt h.inside)]
  have none := List.count_eq_zero_of_not_mem (h.isLine.not_mem_take h.inside)
  rw [way, List.count_append, none, Nat.add_zero]

/-- The line of a position starts after every line feed before the position. -/
theorem length_le (h : Stands cs position place before after) {front back : List Char}
    (split : cs = front ++ back) (opens : Opens front) (reached : front.length ≤ position) :
    front.length ≤ before.length := by
  by_contra later
  have column := h.column
  have inside := h.inside
  have proper : front ≠ [] := List.ne_nil_of_length_pos (by omega)
  have last : front[front.length - 1]? = some '\n' := by
    rw [← List.getLast?_eq_getElem?, List.getLast?_eq_some_getLast proper,
      opens _ (List.getLast?_eq_some_getLast proper)]
  -- The last line feed of the front would stand in the line, before the position.
  have feed : cs[front.length - 1]? = some '\n' := by
    rw [split, List.getElem?_append_left (by omega), last]
  rw [h.split, List.append_assoc, List.getElem?_append_right (by omega),
    List.getElem?_append_left (by omega), ← List.getElem?_take_of_lt (j := place.column) (by omega)]
    at feed
  exact h.isLine.not_mem_take inside (List.mem_of_getElem? feed)

theorem unique (h : Stands cs position place before after) {place' : Place}
    {before' after' : List Char} (other : Stands cs position place' before' after') :
    place = place' := by
  have reached := h.column
  have reached' := other.column
  have split : cs = before ++ (place.line ++ after) := by rw [h.split, List.append_assoc]
  have split' : cs = before' ++ (place'.line ++ after') := by rw [other.split, List.append_assoc]
  have length : before.length = before'.length :=
    Nat.le_antisymm (other.length_le split h.isLine.opens (by omega))
      (h.length_le split' other.isLine.opens (by omega))
  obtain ⟨rfl, rest⟩ := List.append_inj (split.symm.trans split') length
  have number : place.number = place'.number := h.number.trans other.number.symm
  have line : place.line = place'.line := h.isLine.unique other.isLine rest
  have column : place.column = place'.column := by omega
  cases place
  cases place'
  rw [Place.mk.injEq]
  exact ⟨number, line, column⟩

end Stands

namespace Place

/-- Inside the lines the search ends on the line that holds the offset. -/
theorem stands_search {ls : List (List Char)} (ruled : Ruled ls) {before : List Char}
    (opens : Opens before) {offset : Nat} (inside : offset < ls.flatten.length) (fallback : Place) :
    ∃ front back, Stands (before ++ ls.flatten) (before.length + offset)
      (search offset (before.count '\n' + 1) fallback ls) front back := by
  induction ruled generalizing before offset fallback with
  | nil => simp at inside
  | @last body proper plain =>
    have here : offset < body.length := by simpa using inside
    simp only [search, if_pos here]
    exact ⟨before, [], by simp, .last opens plain, rfl, rfl, here⟩
  | @fed body rest plain ruled ih =>
    by_cases here : offset < (body ++ ['\n']).length
    · simp only [search, if_pos here]
      exact ⟨before, rest.flatten, by simp, .fed opens plain, rfl, rfl, here⟩
    · -- The lines that follow stand after this one.
      have later : Opens (before ++ (body ++ ['\n'])) := by
        intro c last
        simpa using last.symm
      have count : (before ++ (body ++ ['\n'])).count '\n' = before.count '\n' + 1 := by
        simp [List.count_eq_zero_of_not_mem plain]
      have length : (before ++ (body ++ ['\n'])).length + (offset - (body ++ ['\n']).length) =
          before.length + offset := by
        rw [List.length_append]
        omega
      have rests : offset - (body ++ ['\n']).length < rest.flatten.length := by
        rw [List.flatten_cons, List.length_append] at inside
        omega
      simp only [search, if_neg here]
      have found := ih later rests
        (if 0 < (trimEnd (body ++ ['\n'])).length then
          ⟨before.count '\n' + 1, body ++ ['\n'], (trimEnd (body ++ ['\n'])).length⟩ else fallback)
      rw [count, length] at found
      simpa using found

end Place

theorem stands_placeOf {cs : List Char} {position : Nat} (inside : position < cs.length) :
    ∃ before after, Stands cs position (placeOf cs position) before after := by
  have opens : Opens [] := by simp [Opens]
  have holds : position < (lines cs).flatten.length := by simpa using inside
  have found := Place.stands_search (ruled_lines cs) opens holds Place.start
  simpa [placeOf] using found

namespace Place

/-- Past the lines the search goes back to their last visible character. -/
theorem search_of_end {ls : List (List Char)} {offset : Nat} (past : ls.flatten.length ≤ offset)
    (number : Nat) (fallback : Place) :
    search offset number fallback ls =
      if trimEnd ls.flatten = [] then fallback
      else
        let last := search ((trimEnd ls.flatten).length - 1) number fallback ls
        { last with column := last.column + 1 } := by
  induction ls generalizing offset number fallback with
  | nil => simp [search, trimEnd]
  | cons line rest ih =>
    have visible := (trimEnd_isPrefix line).length_le
    rw [List.flatten_cons, List.length_append] at past
    have beyond : ¬offset < line.length := by omega
    simp only [search, if_neg beyond]
    rw [ih (by omega), List.flatten_cons, trimEnd_append]
    by_cases blank : trimEnd rest.flatten = []
    · -- Nothing is visible later, so the last visible character is in this line or there is none.
      rw [if_pos blank, if_pos blank]
      by_cases empty : trimEnd line = []
      · simp [empty]
      · have some := List.length_pos_iff.mpr empty
        have here : (trimEnd line).length - 1 < line.length := by omega
        simp only [if_neg empty, if_pos some, if_pos here, Nat.sub_add_cancel some]
    · have some := List.length_pos_iff.mpr blank
      have later : ¬(line ++ trimEnd rest.flatten).length - 1 < line.length := by
        rw [List.length_append]
        omega
      have left : (line ++ trimEnd rest.flatten).length - 1 - line.length =
          (trimEnd rest.flatten).length - 1 := by
        rw [List.length_append]
        omega
      have proper : line ++ trimEnd rest.flatten ≠ [] := List.append_ne_nil_of_right_ne_nil _ blank
      rw [if_neg blank, if_neg blank, if_neg proper]
      simp only [if_neg later, left]

theorem column_search_of_end {ls : List (List Char)} {offset : Nat}
    (past : ls.flatten.length ≤ offset) (number : Nat) {fallback : Place}
    (ended : fallback.column = (trimEnd fallback.line).length) :
    (search offset number fallback ls).column =
      (trimEnd (search offset number fallback ls).line).length := by
  induction ls generalizing offset number fallback with
  | nil => exact ended
  | cons line rest ih =>
    rw [List.flatten_cons, List.length_append] at past
    have beyond : ¬offset < line.length := by omega
    simp only [search, if_neg beyond]
    apply ih (by omega)
    split
    · rfl
    · exact ended

theorem column_search_le {ls : List (List Char)} {bound : Nat}
    (short : ∀ line ∈ ls, line.length ≤ bound) (offset number : Nat) {fallback : Place}
    (start : fallback.column ≤ bound) : (search offset number fallback ls).column ≤ bound := by
  induction ls generalizing offset number fallback with
  | nil => exact start
  | cons line rest ih =>
    obtain ⟨first, later⟩ := List.forall_mem_cons.mp short
    by_cases here : offset < line.length
    · simp only [search, if_pos here]
      omega
    · simp only [search, if_neg here]
      apply ih later
      split
      · exact Nat.le_trans (trimEnd_isPrefix line).length_le first
      · exact start

end Place

variable {cs : List Char} {position : Nat}

theorem placeOf_of_end (past : cs.length ≤ position) :
    placeOf cs position =
      if trimEnd cs = [] then Place.start
      else
        let last := placeOf cs ((trimEnd cs).length - 1)
        { last with column := last.column + 1 } := by
  have beyond : (lines cs).flatten.length ≤ position := by simpa using past
  have found := Place.search_of_end beyond 1 Place.start
  simpa [placeOf] using found

theorem stands_placeOf_of_end (past : cs.length ≤ position) (some : trimEnd cs ≠ []) :
    ∃ place before after, Stands cs ((trimEnd cs).length - 1) place before after ∧
      placeOf cs position = { place with column := place.column + 1 } := by
  have shorter := (trimEnd_isPrefix cs).length_le
  have proper := List.length_pos_iff.mpr some
  have inside : (trimEnd cs).length - 1 < cs.length := by omega
  obtain ⟨before, after, stands⟩ := stands_placeOf inside
  refine ⟨_, before, after, stands, ?_⟩
  rw [placeOf_of_end past, if_neg some]

theorem isLine_placeOf (cs : List Char) (position : Nat) :
    ∃ before after, IsLine before (placeOf cs position).line after := by
  by_cases inside : position < cs.length
  · obtain ⟨before, after, stands⟩ := stands_placeOf inside
    exact ⟨before, after, stands.isLine⟩
  · have past := Nat.le_of_not_lt inside
    by_cases blank : trimEnd cs = []
    · rw [placeOf_of_end past, if_pos blank]
      exact ⟨[], [], .last (by simp [Opens]) List.not_mem_nil⟩
    · obtain ⟨place, before, after, stands, same⟩ := stands_placeOf_of_end past blank
      rw [same]
      exact ⟨before, after, stands.isLine⟩

theorem column_placeOf_of_end (past : cs.length ≤ position) :
    (placeOf cs position).column = (trimEnd (placeOf cs position).line).length :=
  Place.column_search_of_end (by simpa using past) 1 rfl

theorem column_placeOf_le {bound : Nat} (short : ∀ line ∈ lines cs, line.length ≤ bound)
    (position : Nat) : (placeOf cs position).column ≤ bound :=
  Place.column_search_le short position 1 (Nat.zero_le bound)

/-- Inside a text a place is the place of a position exactly if it is on the line around it. -/
theorem placeOf_eq_iff (inside : position < cs.length) (place : Place) :
    placeOf cs position = place ↔ ∃ before after, Stands cs position place before after := by
  obtain ⟨before, after, stands⟩ := stands_placeOf inside
  constructor
  · rintro rfl
    exact ⟨before, after, stands⟩
  · rintro ⟨_, _, other⟩
    exact stands.unique other

/-- A position inside a text has the number of the line feeds before it, one added; the line around
it, which starts the text or follows a line feed and goes on to the next line feed or to the end; and
its distance from the start of that line. Past the end the place is that of the last visible
character, one column further. If no character is visible, the line is empty and the first. -/
theorem placeOf_decomposes (cs : List Char) (position : Nat) :
    (position < cs.length →
      (∀ place, placeOf cs position = place ↔
        place.number = 1 + (cs.take position).count '\n' ∧
        ∃ before after, cs = before ++ place.line ++ after ∧ IsLine before place.line after ∧
          before.length ≤ position ∧ position < (before ++ place.line).length ∧
          place.column = position - before.length) ∧
      (placeOf cs position).line[(placeOf cs position).column]? = cs[position]?) ∧
    (cs.length ≤ position →
      (∀ last c, cs[last]? = some c → isBlank c = false →
        (∀ c ∈ cs.drop (last + 1), isBlank c = true) →
        placeOf cs position =
          ⟨(placeOf cs last).number, (placeOf cs last).line, (placeOf cs last).column + 1⟩) ∧
      ((∀ c ∈ cs, isBlank c = true) → placeOf cs position = ⟨1, [], 0⟩)) := by
  refine ⟨fun inside => ⟨fun place => ?_, ?_⟩, fun past => ⟨?_, ?_⟩⟩
  · rw [placeOf_eq_iff inside]
    constructor
    · rintro ⟨before, after, stands⟩
      have column := stands.column
      have here := stands.inside
      refine ⟨?_, before, after, stands.split, stands.isLine, by omega, ?_, by omega⟩
      · rw [stands.count_take, stands.number, Nat.add_comm]
      · rw [List.length_append]
        omega
    · rintro ⟨number, before, after, split, isLine, starts, ends, column⟩
      rw [List.length_append] at ends
      have stands : Stands cs position ⟨before.count '\n' + 1, place.line, place.column⟩ before after :=
        ⟨split, isLine, rfl, by simp only; omega, by simp only; omega⟩
      refine ⟨before, after, split, isLine, ?_, by omega, by omega⟩
      rw [number, stands.count_take, Nat.add_comm]
  · obtain ⟨before, after, stands⟩ := stands_placeOf inside
    exact stands.getElem?
  · intro last c here visible blank
    have length := length_trimEnd_of_last here visible blank
    have some : trimEnd cs ≠ [] := List.ne_nil_of_length_pos (by omega)
    rw [placeOf_of_end past, if_neg some, length, Nat.add_sub_cancel]
  · intro blank
    rw [placeOf_of_end past, if_pos (trimEnd_eq_nil_iff.mpr blank), Place.start]

/-- A line feed is on the line it ends. Past the end the blank lines do not count. -/
theorem placeOf_decomposes_lines :
    placeOf "a\n b * \n\n\t\n".toList 1 = ⟨1, "a\n".toList, 1⟩ ∧
    placeOf "a\n b * \n\n\t\n".toList 11 = ⟨2, " b * \n".toList, 4⟩ ∧
    placeOf " \n ".toList 3 = ⟨1, [], 0⟩ := by
  have inside := ((placeOf_decomposes "a\n b * \n\n\t\n".toList 1).1 (by decide)).1
  have past := ((placeOf_decomposes "a\n b * \n\n\t\n".toList 11).2 (by decide)).1
  have blank := ((placeOf_decomposes " \n ".toList 3).2 (by decide)).2
  have first : IsLine [] (['a'] ++ ['\n']) " b * \n\n\t\n".toList :=
    .fed (by simp [Opens]) (by decide)
  refine ⟨(inside _).mpr ⟨by decide, [], _, by decide, first, by decide⟩, ?_,
    blank (List.all_eq_true.mp (by decide))⟩
  rw [past 5 '*' (by decide) (by decide) (List.all_eq_true.mp (by decide))]
  decide

end Reckoner.Text
