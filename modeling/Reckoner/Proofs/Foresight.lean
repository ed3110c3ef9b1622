import Reckoner.Proofs.Viability

/-! How far a scanner sees. It has looked at the characters it has taken and at its lookahead, and
nothing else can have mattered: a text that is the same so far gives the same answers and views
(`play_of_take_eq`). An expression does not even depend on the lookahead it ends before. Cut there,
the text is that expression and nothing more, and with any more of the text something is left over
(`parse_longest`). -/
namespace Reckoner

namespace Scanner

/-- What comes after the lookahead cannot matter. Where a course of operations has not come to the end
of a text, it gives the same answers and the same views on any text that has the same characters up
to the lookahead, that one included. -/
theorem play_of_take_eq (a b : String) (operations : List Operation)
    (reading : ((ofText a).playThrough operations).atEnd = false)
    (same : b.toList.take (((ofText a).playThrough operations).position + 1) =
      a.toList.take (((ofText a).playThrough operations).position + 1)) :
    (ofText b).view = (ofText a).view ∧ (ofText b).play operations = (ofText a).play operations := by
  have onward := onward_playThrough (ofText a) operations
  have some : ((ofText a).playThrough operations).lookahead.isSome = true := by
    simpa [atEnd] using reading
  obtain ⟨c, present⟩ := Option.isSome_iff_exists.mp some
  have inside := ((along_ofText a).onward onward).position_lt present
  obtain ⟨later, start⟩ := twin_of_onward onward (Nat.lt_succ_self _) inside
    (b.toList.drop (((ofText a).playThrough operations).position + 1))
  rw [← same, List.take_append_drop, String.ofList_toList] at start
  have steps := (Twin.tandem _ _).play_eq Twin.view start operations later
  exact ⟨start.view.symm, steps.symm⟩

/-- A product is read up to a sum that goes on with a name, or that does not go on at all. -/
theorem play_of_take_eq_product :
    ((ofText "2*(x) + y").playThrough [.product]).atEnd = false ∧
    ((ofText "2*(x) + y").playThrough [.product]).position = 6 ∧
    (ofText "2*(x) +").play [.product] = (ofText "2*(x) + y").play [.product] := by
  have reading : ((ofText "2*(x) + y").playThrough [.product]).atEnd = false := by decide +kernel
  have stands : ((ofText "2*(x) + y").playThrough [.product]).position = 6 := by decide +kernel
  refine ⟨reading, stands, (play_of_take_eq _ _ _ reading ?_).2⟩
  rw [stands]
  decide +kernel

end Scanner

namespace Text

variable {accept : Char → Bool} {front tail : List Char}

theorem run_append (reaches : tail.length ≤ ((front ++ tail).dropWhile accept).length) :
    (front ++ tail).takeWhile accept = front.takeWhile accept ∧
      (front ++ tail).dropWhile accept = front.dropWhile accept ++ tail := by
  induction front with
  | nil =>
    have all : tail.dropWhile accept = tail :=
      (List.dropWhile_suffix accept).eq_of_length_le reaches
    have none := tail.takeWhile_append_dropWhile (p := accept)
    rw [all, List.append_left_eq_self] at none
    exact ⟨none, all⟩
  | cons c front ih =>
    by_cases accepted : accept c = true
    · simp only [List.cons_append, List.dropWhile_cons_of_pos accepted,
        List.takeWhile_cons_of_pos accepted] at reaches ⊢
      exact ⟨congrArg _ (ih reaches).1, (ih reaches).2⟩
    · simp [accepted]

theorem run_blanks_append
    (reaches : tail.length ≤ (((front ++ tail).dropWhile accept).dropWhile isBlank).length) :
    (front ++ tail).takeWhile accept = front.takeWhile accept ∧
      ((front ++ tail).dropWhile accept).dropWhile isBlank =
        (front.dropWhile accept).dropWhile isBlank ++ tail := by
  obtain ⟨taken, left⟩ := run_append (Nat.le_trans reaches (List.length_dropWhile_le _ _))
  rw [left] at reaches ⊢
  exact ⟨taken, (run_append reaches).2⟩

end Text

namespace Scanner

variable {σ τ : Type} [Source σ] [Source τ]

namespace Short

variable {tail : List Char} {s : Scanner σ} {c : Char}

/-- The lookahead is before a tail that is still to come once it is taken. -/
theorem of_advance (present : s.lookahead = some c)
    (reaches : tail.length ≤ s.advance.upcoming.length) : s.Short tail := by
  rw [upcoming_advance] at reaches
  rw [Short, upcoming_of_some present]
  exact Nat.lt_succ_of_le reaches

theorem of_skip (present : s.lookahead = some c) (reaches : tail.length ≤ s.skip.upcoming.length) :
    s.Short tail :=
  of_advance present (Nat.le_trans reaches (Onward.skipBlanks _).upcoming_length_le)

theorem of_identifier (present : s.lookahead = some c)
    (reaches : tail.length ≤ s.identifier.2.upcoming.length) : s.Short tail :=
  of_advance present (Nat.le_trans reaches
    (((Onward.takeFrom ..).trans (.skipBlanks _)).record _).upcoming_length_le)

theorem of_integer (present : s.lookahead = some c) (digit : c.isDigit = true)
    (reaches : tail.length ≤ s.integer.2.upcoming.length) : s.Short tail := by
  apply of_advance present
  rw [upcoming_integer, upcoming_of_some present, List.dropWhile_cons_of_pos digit] at reaches
  rw [upcoming_advance]
  exact Nat.le_trans reaches
    (Nat.le_trans (List.length_dropWhile_le _ _) (List.length_dropWhile_le _ _))

end Short

/-- The scanner of an input and that of the part before a tail, with as much taken of both. -/
structure Cut (tail : List Char) (s : Scanner σ) (t : Scanner τ) : Prop where
  upcoming : s.upcoming = t.upcoming ++ tail
  extent : s.extent = t.extent + tail.length

namespace Cut

variable {tail : List Char} {s : Scanner σ} {t : Scanner τ}

theorem position (cut : Cut tail s t) : s.position = t.position := by
  have extent := cut.extent
  rw [Scanner.extent, Scanner.extent, cut.upcoming, List.length_append] at extent
  omega

theorem record (cut : Cut tail s t) (a b : Event) : Cut tail (s.record a) (t.record b) :=
  ⟨cut.upcoming, cut.extent⟩

theorem upcoming_ne_nil (cut : Cut tail s t) (short : s.Short tail) : t.upcoming ≠ [] := by
  intro none
  rw [Short, cut.upcoming, none, List.nil_append] at short
  exact Nat.lt_irrefl _ short

/-- Before the cut the lookahead is the same; at the cut only the input has one. -/
theorem lookahead (cut : Cut tail s t) (more : t.upcoming ≠ []) : s.lookahead = t.lookahead := by
  rw [← head?_upcoming, ← head?_upcoming, cut.upcoming, List.head?_append_of_ne_nil _ more]

theorem not_continues (cut : Cut tail s t) {power : Power} (stops : ¬s.Continues power) :
    ¬t.Continues power := by
  rintro ⟨op, found, same⟩
  have more : t.upcoming ≠ [] := by
    rw [Ne, upcoming_eq_nil, lookahead_of_operator? found]
    simp
  refine stops ⟨op, ?_, same⟩
  rw [operator?, cut.lookahead more]
  exact found

theorem skip (cut : Cut tail s t) (short : s.Short tail)
    (reaches : tail.length ≤ s.skip.upcoming.length) : Cut tail s.skip t.skip := by
  constructor
  · rw [upcoming_skip, cut.upcoming, List.tail_append_of_ne_nil (cut.upcoming_ne_nil short)]
      at reaches
    rw [upcoming_skip, upcoming_skip, cut.upcoming,
      List.tail_append_of_ne_nil (cut.upcoming_ne_nil short), (Text.run_append reaches).2]
  · rw [extent_skip, extent_skip, cut.extent]

theorem identifier (cut : Cut tail s t) (short : s.Short tail)
    (reaches : tail.length ≤ s.identifier.2.upcoming.length) :
    s.identifier.1 = t.identifier.1 ∧ Cut tail s.identifier.2 t.identifier.2 := by
  have more := cut.upcoming_ne_nil short
  have later : s.upcoming.tail = t.upcoming.tail ++ tail := by
    rw [cut.upcoming, List.tail_append_of_ne_nil more]
  rw [upcoming_identifier, later] at reaches
  obtain ⟨name, left⟩ := Text.run_blanks_append reaches
  refine ⟨?_, ?_, ?_⟩
  · rw [identifier_fst, identifier_fst, cut.lookahead more, later, name]
  · rw [upcoming_identifier, upcoming_identifier, later, left]
  · rw [extent_identifier, extent_identifier, cut.extent]

theorem integer (cut : Cut tail s t) (reaches : tail.length ≤ s.integer.2.upcoming.length) :
    s.upcoming.takeWhile Char.isDigit = t.upcoming.takeWhile Char.isDigit ∧
      Cut tail s.integer.2 t.integer.2 := by
  rw [upcoming_integer, cut.upcoming] at reaches
  obtain ⟨digits, left⟩ := Text.run_blanks_append reaches
  refine ⟨?_, ?_, ?_⟩
  · rw [cut.upcoming, digits]
  · rw [upcoming_integer, upcoming_integer, cut.upcoming, left]
  · rw [extent_integer, extent_integer, cut.extent]

end Cut

end Scanner

namespace Descent

variable {σ τ : Type} [Source σ] [Source τ] {part : Part} {room : Nat} {s rest : Scanner σ}
  {result : Except Diagnostic Expr} {e : Expr}

/-- What is read of an input is read of the input cut anywhere after it. The one place where the two
can show different characters is the cut, and there an input that has ended goes on no further. -/
theorem cut (h : Descent part room s result rest) (ok : result = .ok e) {tail : List Char}
    (reaches : tail.length ≤ rest.upcoming.length) {t : Scanner τ} (cut : s.Cut tail t) :
    ∃ last, Descent part room t (.ok e) last ∧ rest.Cut tail last := by
  induction h generalizing e t with
  | @symbol room s c present letter =>
    obtain rfl := Except.ok.inj ok
    have short := Scanner.Short.of_identifier present reaches
    obtain ⟨name, after⟩ := cut.identifier short reaches
    have shown := (cut.lookahead (cut.upcoming_ne_nil short)).symm.trans present
    have ends : s.identifier.2.lastEnd = t.identifier.2.lastEnd := by
      rw [Scanner.lastEnd_identifier present letter, Scanner.lastEnd_identifier shown letter, name,
        cut.position]
    refine ⟨_, ?_, after⟩
    rw [name, cut.position, ends]
    exact .symbol shown letter
  | @number room s rest c value present other digit fits =>
    obtain rfl := Except.ok.inj ok
    have read : s.integer.2 = rest := by rw [fits]
    subst read
    have short := Scanner.Short.of_integer present digit reaches
    obtain ⟨digits, after⟩ := cut.integer reaches
    have shown := (cut.lookahead (cut.upcoming_ne_nil short)).symm.trans present
    have ends : s.integer.2.lastEnd = t.integer.2.lastEnd := by
      rw [Scanner.lastEnd_integer present digit, Scanner.lastEnd_integer shown digit, digits,
        cut.position]
    obtain ⟨small, rfl⟩ := Scanner.of_integer_ok fits
    rw [digits] at small
    refine ⟨_, ?_, after⟩
    rw [digits, cut.position, ends]
    exact .number shown other digit (Scanner.integer_of_fits small)
  | tooLarge | noFactor | tooDeep | unclosed | groupFails | firstFails | againFails =>
    contradiction
  | @group room s rest f present inner closed ih =>
    have closing := Scanner.Short.of_skip closed reaches
    have inside := Nat.le_trans (Nat.le_of_lt closing) inner.onward.upcoming_length_le
    have opening := Scanner.Short.of_skip present inside
    obtain ⟨last, descent, after⟩ := ih ok (Nat.le_of_lt closing) (cut.skip opening inside)
    have shown := (cut.lookahead (cut.upcoming_ne_nil opening)).symm.trans present
    have shut := (after.lookahead (after.upcoming_ne_nil closing)).symm.trans closed
    exact ⟨last.skip, .group shown descent shut, after.skip closing reaches⟩
  | first _ ih =>
    obtain ⟨last, descent, after⟩ := ih ok reaches cut
    exact ⟨last, .first descent, after⟩
  | @again room power s middle rest left right op spine found same operand ihs iho =>
    obtain rfl := Except.ok.inj ok
    have between := Nat.le_trans reaches operand.onward.upcoming_length_le
    have short := Scanner.Short.of_skip (Scanner.lookahead_of_operator? found) between
    obtain ⟨next, front, met⟩ := ihs rfl (Nat.le_of_lt short) cut
    obtain ⟨last, back, after⟩ := iho rfl reaches (met.skip short between)
    have shown : next.operator? = some op := by
      rw [Scanner.operator?, ← met.lookahead (met.upcoming_ne_nil short)]
      exact found
    refine ⟨last.record (.reduced op next.position), ?_, after.record _ _⟩
    rw [met.position]
    exact .again front shown same back
  | ended _ stops ih =>
    obtain ⟨last, descent, after⟩ := ih ok reaches cut
    exact ⟨last, .ended descent (after.not_continues stops), after⟩

end Descent

theorem Parser.descent_of_parse {σ : Type} [Source σ] {s rest : Scanner σ} {e : Expr}
    (read : parse s = (.ok e, rest)) :
    ∃ last event, Descent (.chain .additive) nestingLimit s (.ok e) last ∧
      rest = last.record event := by
  obtain ⟨event, parsed⟩ := parse_eq s
  obtain ⟨result, after⟩ := Prod.mk.inj (parsed.symm.trans read)
  exact ⟨_, event, result ▸ descent_ofPower nestingLimit .additive s, after.symm⟩

namespace Scanner

theorem cut_ofText {text : String} {s : Scanner (List Char)} (onward : (ofText text).Onward s) :
    (ofText text).Cut (text.toList.drop s.position)
      (ofText (String.ofList (text.toList.take s.position))) := by
  have reaches := onward.upcoming_length_le
  rw [((along_ofText text).onward onward).upcoming, ofText, upcoming_ofSource, Source.yielded_text]
    at reaches
  have whole := List.take_append_drop s.position text.toList
  constructor
  · have left : (text.toList.drop s.position).length ≤
        ((text.toList.take s.position ++ text.toList.drop s.position).dropWhile
          Text.isBlank).length := by rwa [whole]
    have run := (Text.run_append left).2
    rw [whole] at run
    simpa [ofText] using run
  · simp only [ofText, extent_ofSource, Source.yielded_text, String.toList_ofList]
    rw [← List.length_append, List.take_append_drop]

end Scanner

open Scanner

/-- The expression that a text begins with is the longest that it could be: cut where the parse stops
the text is that expression, node for node in the same places, and cut anywhere later it is refused
for what stands there. -/
theorem parse_longest (text : String) (e : Expr) (rest : Scanner (List Char))
    (read : Parser.parse (ofText text) = (.ok e, rest)) :
    Parser.parseText (String.ofList (text.toList.take rest.position)) = .ok e ∧
    ∀ q, rest.position < q → q ≤ text.length → ∃ c, text.toList[rest.position]? = some c ∧
      Parser.parseText (String.ofList (text.toList.take q)) =
        .error ⟨.trailingInput c, rest.position⟩ := by
  obtain ⟨last, event, descent, rfl⟩ := Parser.descent_of_parse read
  have along := (along_ofText text).onward descent.onward
  refine ⟨?_, fun q later within => ?_⟩
  · obtain ⟨stop, like, met⟩ :=
      descent.cut rfl (Nat.le_of_eq (congrArg List.length along.upcoming.symm))
        (cut_ofText descent.onward)
    have none : stop.upcoming = [] := by
      have upcoming := met.upcoming
      rwa [along.upcoming, eq_comm, List.append_left_eq_self] at upcoming
    exact Parser.parseComplete_ok_iff.mpr ⟨stop, like, upcoming_eq_nil.mp none⟩
  · rw [← String.length_toList] at within
    obtain ⟨c, here⟩ : ∃ c, text.toList[last.position]? = some c :=
      ⟨_, List.getElem?_eq_getElem (Nat.lt_of_lt_of_le later within)⟩
    have present : last.lookahead = some c := along.lookahead.trans here
    obtain ⟨short, start⟩ := twin_of_onward descent.onward later within []
    obtain ⟨_, stop, like, agree, met⟩ := (Twin.lockstep _ _).descent descent short start
    cases agree with
    | ok same =>
      have refused := Parser.parseComplete_of_trailing like (met.lookahead.symm.trans present)
      rw [List.append_nil, ← met.position] at refused
      exact ⟨c, here, refused⟩

/-- The blanks before what is left over belong to the cut, and so may the first of it. -/
theorem parse_longest_word :
    ∃ e rest, Parser.parse (ofText "(1+2) * x  y z") = (.ok e, rest) ∧
      Parser.parseText "(1+2) * x  " = .ok e ∧
      Parser.parseText "(1+2) * x  y" = .error ⟨.trailingInput 'y', 11⟩ := by
  have first : (Parser.parse (ofText "(1+2) * x  y z")).1 =
      .ok (.binary .times 6
        (.binary .plus 2 (.number 1 ⟨1, 2⟩) (.number 2 ⟨3, 4⟩) ⟨1, 4⟩)
        (.symbol "x" ⟨8, 9⟩) ⟨1, 9⟩) := by
    decide +kernel
  have stands : (Parser.parse (ofText "(1+2) * x  y z")).2.position = 11 := by decide +kernel
  have front : String.ofList ("(1+2) * x  y z".toList.take 11) = "(1+2) * x  " := by decide +kernel
  have longer : String.ofList ("(1+2) * x  y z".toList.take 12) = "(1+2) * x  y" := by
    decide +kernel
  have read : Parser.parse (ofText "(1+2) * x  y z") = (.ok _, _) := Prod.ext first rfl
  obtain ⟨whole, refused⟩ := parse_longest _ _ _ read
  obtain ⟨c, here, refused⟩ := refused 12 (by rw [stands]; decide) (by decide +kernel)
  rw [stands] at whole here refused
  rw [front] at whole
  rw [longer] at refused
  have found : "(1+2) * x  y z".toList[11]? = some 'y' := by decide +kernel
  obtain rfl := Option.some.inj (found.symm.trans here)
  exact ⟨_, _, read, whole, refused⟩

end Reckoner
