import Reckoner.Expr.Postorder
import Reckoner.Proofs.Failure

/-! Where a failed parse leaves the scanner. Whatever was done before, and however deep the failure
is, the diagnostic describes what the scanner then shows (`Diagnostic.Describes`): the character
that was refused is still the lookahead, and only a literal that is too large has been taken. What a
refused character cannot be follows from where the chains before it ended (`Descent.finished`). -/
namespace Reckoner

namespace Diagnostic

/-- What a diagnostic tells of the view that a failed parse of a text leaves. -/
def Describes (text : List Char) (d : Diagnostic) (view : View) : Prop :=
  match d.fault with
  | .expectedFactor found => d.position = view.position ∧ found = view.lookahead ∧
      ∀ c, found = some c → Text.isLetter c = false ∧ c.isDigit = false ∧ c ≠ '('
  | .unexpectedCharacter expected found => d.position = view.position ∧ found = view.lookahead ∧
      expected = ')' ∧ ∀ c, found = some c → c ∉ [')', '+', '-', '*', '/']
  | .trailingInput found => d.position = view.position ∧ some found = view.lookahead ∧
      found ∉ ['+', '-', '*', '/']
  | .nestingTooDeep limit => d.position = view.position ∧ limit = 256 ∧ view.lookahead = some '('
  | .numberTooLarge token => token.toList = (text.drop d.position).takeWhile Char.isDigit ∧
      2 ^ 63 - 1 < Nat.ofDigitChars 10 token.toList 0 ∧
      -- The scanner is past the literal and the blanks after it.
      let after := text.drop (d.position + token.length)
      view.position = d.position + token.length + (after.takeWhile Text.isBlank).length ∧
        view.lookahead = (after.dropWhile Text.isBlank).head?
  | .divisionByZero | .overflow _ => False

theorem Describes.stage {text : List Char} {d : Diagnostic} {view : View}
    (h : d.Describes text view) : d.fault.stage = .parsing := by
  obtain ⟨fault, position⟩ := d
  cases fault with
  | divisionByZero | overflow => exact h.elim
  | _ => rfl

end Diagnostic

variable {σ : Type} [Source σ]

namespace Scanner

variable {s : Scanner σ} {c : Char}

theorem not_mem_of_operator?_eq_none (none : s.operator? = none) (present : s.lookahead = some c) :
    c ∉ ['+', '-', '*', '/'] := by
  intro member
  obtain ⟨op, _, rfl⟩ := List.mem_map.mp (show c ∈ Operator.all.map Operator.symbol from member)
  rw [operator?, present, Option.bind_some, (Operator.ofSymbol?_eq_some_iff _ op).mpr rfl] at none
  contradiction

theorem position_integer (s : Scanner σ) :
    s.integer.2.position = s.position + (s.upcoming.takeWhile Char.isDigit).length +
      ((s.upcoming.dropWhile Char.isDigit).takeWhile Text.isBlank).length := by
  have moved : s.integer.2.position = (s.takeWhile Char.isDigit).2.skipBlanks.position := by
    rw [integer_snd]
    rfl
  rw [moved, position_skipBlanks, upcoming_takeWhile, position_takeWhile]

end Scanner

/-- Where a part is finished no operator follows that would still belong to it. -/
def Part.Finished : Part → Scanner σ → Prop
  | .factor, _ => True
  | .spine power, s => ∀ q, power < q → ¬s.Continues q
  | .chain power, s => ∀ q, ¬q < power → ¬s.Continues q

theorem Part.finished_spine {power : Power} {s : Scanner σ} (h : power.operand.Finished s) :
    (Part.spine power).Finished s := by
  intro q tighter
  cases power with
  | additive => exact h q (by cases q <;> revert tighter <;> decide)
  | multiplicative => exact absurd tighter (by cases q <;> decide)

theorem Part.finished_chain {power : Power} {s : Scanner σ} (h : (Part.spine power).Finished s)
    (stops : ¬s.Continues power) : (Part.chain power).Finished s := by
  intro q notLooser
  by_cases same : q = power
  · exact same ▸ stops
  · refine h q ?_
    revert same notLooser
    cases q <;> cases power <;> decide

namespace Descent

variable {part : Part} {room : Nat} {s rest : Scanner σ} {result : Except Diagnostic Expr}
  {e : Expr}

theorem finished (h : Descent part room s result rest) (ok : result = .ok e) : part.Finished rest := by
  induction h generalizing e with
  | symbol | number | group => trivial
  | tooLarge | noFactor | tooDeep | unclosed | groupFails | firstFails | againFails =>
    contradiction
  | first _ ih => exact Part.finished_spine (ih ok)
  | @again room power s middle rest left right op _ _ _ _ _ ih =>
    have finished : power.operand.Finished rest := ih rfl
    exact Part.finished_spine (s := rest) finished
  | ended _ stops ih => exact Part.finished_chain (ih ok) stops

theorem operator?_eq_none (h : Descent (.chain .additive) room s (.ok e) rest) :
    rest.operator? = none := by
  cases found : rest.operator? with
  | none => rfl
  | some op => exact absurd ⟨op, found, rfl⟩ (h.finished rfl op.power (by cases op <;> decide))

end Descent

theorem Refused.describes {room : Nat} {s rest : Scanner σ} {d : Diagnostic} {text : List Char}
    (h : Refused room s d rest) (along : s.Along text) : d.Describes text rest.view := by
  cases h with
  | tooLarge present other digit exceeds =>
    have large := Scanner.exceeds_of_integer_error exceeds
    obtain rfl := Scanner.of_integer_error exceeds
    have moved := s.position_integer
    have left := s.upcoming_integer
    have after : s.upcoming.dropWhile Char.isDigit =
        text.drop (s.position + (s.upcoming.takeWhile Char.isDigit).length) := by
      have onward := along.onward (.takeFrom Char.isDigit [] s)
      have split := onward.upcoming
      rwa [Scanner.upcoming_takeFrom, ← Scanner.takeWhile, Scanner.position_takeWhile] at split
    rw [exceeds, after] at moved left
    refine ⟨by simp [along.upcoming], by simpa using large, ?_, ?_⟩
    · simpa [Scanner.view] using moved
    · simp [Scanner.view, ← left]
  | noFactor none => exact ⟨rfl, rfl, none⟩
  | tooDeep present => exact ⟨rfl, rfl, present⟩
  | unclosed present inner missing =>
    refine ⟨rfl, rfl, rfl, ?_⟩
    intro c shown member
    rcases List.mem_cons.mp member with rfl | operator
    · exact missing shown
    · exact Scanner.not_mem_of_operator?_eq_none inner.operator?_eq_none shown operator

namespace Scanner

/-- An operation that reads a tree fails where a descent fails, or because something is left over. -/
theorem of_perform_error {s : Scanner σ} {operation : Operation} {d : Diagnostic}
    (failed : (s.perform operation).1 = .tree (.error d)) :
    ∃ rest : Scanner σ, (s.perform operation).2.view = rest.view ∧
      ((∃ part, Descent part nestingLimit s (.error d) rest) ∨
        operation = .parseComplete ∧ ∃ e c, Descent (.chain .additive) nestingLimit s (.ok e) rest ∧
          rest.lookahead = some c ∧ d = ⟨.trailingInput c, rest.position⟩) := by
  have sums := Parser.descent_ofPower nestingLimit .additive s
  have parsed : (Parser.parse s).1 = ((Parser.sum nestingLimit).run s).1 ∧
      (Parser.parse s).2.view = ((Parser.sum nestingLimit).run s).2.view := by
    obtain ⟨event, parsed⟩ := Parser.parse_eq s
    rw [parsed]
    exact ⟨rfl, rfl⟩
  cases operation with
  | skip | expect | identifier | integer | peekOperator | takeOperator => contradiction
  | factor =>
    have failed : ((Parser.factor nestingLimit).run s).1 = .error d := Answer.tree.inj failed
    exact ⟨_, rfl, .inl ⟨_, failed ▸ Parser.descent_factor nestingLimit s⟩⟩
  | product =>
    have failed : ((Parser.product nestingLimit).run s).1 = .error d := Answer.tree.inj failed
    exact ⟨_, rfl, .inl ⟨_, failed ▸ Parser.descent_ofPower nestingLimit .multiplicative s⟩⟩
  | sum =>
    have failed : ((Parser.sum nestingLimit).run s).1 = .error d := Answer.tree.inj failed
    exact ⟨_, rfl, .inl ⟨_, failed ▸ sums⟩⟩
  | parse =>
    have failed : (Parser.parse s).1 = .error d := Answer.tree.inj failed
    rw [parsed.1] at failed
    exact ⟨_, parsed.2, .inl ⟨_, failed ▸ sums⟩⟩
  | parseComplete =>
    have failed : (Parser.parseComplete s).1 = .error d := Answer.tree.inj failed
    have after : (s.perform .parseComplete).2 = (Parser.parse s).2 := Parser.parseComplete_snd s
    rw [after]
    refine ⟨_, parsed.2, ?_⟩
    rw [Parser.parseComplete_fst] at failed
    split at failed
    · next read =>
      obtain rfl := Except.error.inj failed
      exact .inl ⟨_, read ▸ sums⟩
    · contradiction
    · next e c read present =>
      exact .inr ⟨rfl, e, c, read ▸ sums, present, (Except.error.inj failed).symm⟩

/-- A parse that fails, of whatever kind and wherever a course of operations has led, describes where
it leaves the scanner. That input is left over is only ever said where none may be. -/
theorem perform_error_describes (text : String) (operations : List Operation) (operation : Operation)
    (d : Diagnostic)
    (failed : (((ofText text).playThrough operations).perform operation).1 = .tree (.error d)) :
    d.fault.stage = .parsing ∧
    (∀ c, d.fault = .trailingInput c → operation = .parseComplete) ∧
    d.Describes text.toList (((ofText text).playThrough operations).perform operation).2.view := by
  have along := (along_ofText text).onward (onward_playThrough _ operations)
  obtain ⟨rest, shown, ⟨part, descent⟩ | ⟨complete, e, c, descent, present, rfl⟩⟩ :=
    of_perform_error failed
  · obtain ⟨left, u, path, refused⟩ := descent.refused rfl
    have described := refused.describes (along.onward path.onward)
    rw [shown]
    exact ⟨described.stage, fun c same => absurd same (refused.not_trailing c), described⟩
  · rw [shown]
    refine ⟨rfl, fun _ _ => complete, rfl, present.symm, ?_⟩
    exact not_mem_of_operator?_eq_none descent.operator?_eq_none present

/-- A literal that does not fit is taken, with the blanks after it, from inside a group that a word
stands before. A word where a group should be closed is not. -/
theorem perform_error_describes_both :
    (((ofText "f (2*99999999999999999999 \n)").playThrough [.identifier]).perform .parse).1 =
      .tree (.error ⟨.numberTooLarge "99999999999999999999", 5⟩) ∧
    Diagnostic.Describes "f (2*99999999999999999999 \n)".toList
      ⟨.numberTooLarge "99999999999999999999", 5⟩ ⟨some ')', 27, 25⟩ ∧
    (((ofText "2 (a b").playThrough [.integer]).perform .product).1 =
      .tree (.error ⟨.unexpectedCharacter ')' (some 'b'), 5⟩) ∧
    Diagnostic.Describes "2 (a b".toList ⟨.unexpectedCharacter ')' (some 'b'), 5⟩
      ⟨some 'b', 5, 4⟩ := by
  have large : (Parser.parse ((ofText "f (2*99999999999999999999 \n)").playThrough [.identifier])).1 =
      .error ⟨.numberTooLarge "99999999999999999999", 5⟩ := by decide +kernel
  have past : (((ofText "f (2*99999999999999999999 \n)").playThrough [.identifier]).perform
      .parse).2.view = ⟨some ')', 27, 25⟩ := by decide +kernel
  have unclosed : ((Parser.product nestingLimit).run ((ofText "2 (a b").playThrough [.integer])).1 =
      .error ⟨.unexpectedCharacter ')' (some 'b'), 5⟩ := by decide +kernel
  have before : (((ofText "2 (a b").playThrough [.integer]).perform .product).2.view =
      ⟨some 'b', 5, 4⟩ := by decide +kernel
  have literal := perform_error_describes _ _ .parse _ (congrArg Answer.tree large)
  have group := perform_error_describes _ _ .product _ (congrArg Answer.tree unclosed)
  rw [past] at literal
  rw [before] at group
  exact ⟨congrArg Answer.tree large, literal.2.2, congrArg Answer.tree unclosed, group.2.2⟩

end Scanner

end Reckoner
