import Reckoner.CommandLine.Report
import Reckoner.Proofs.Decoding
import Reckoner.Proofs.Drawing
import Reckoner.Proofs.Simulation

/-! What a run of the program comes to. A run goes one of four ways (`Conducted`), and which one is
decided by reading and evaluating alone; so it ends well exactly if there is a value, and the input
stream is as good as the text it holds. A run fails to end with a code of its own only where a
diagnostic has to be drawn under a caret that is too far to the right. -/
namespace Reckoner

namespace Parser

variable {σ : Type} [Source σ] {s rest : Scanner σ}

theorem not_trailing_of_parse {d : Diagnostic} (h : parse s = (.error d, rest)) (c : Char) :
    d.fault ≠ .trailingInput c := by
  obtain ⟨event, parsed⟩ := parse_eq s
  have failed : ((sum nestingLimit).run s).1 = .error d :=
    congrArg Prod.fst (parsed.symm.trans h)
  have descent := descent_ofPower nestingLimit .additive s
  obtain ⟨left, u, _, refused⟩ := descent.refused failed
  exact refused.not_trailing c

theorem parseComplete_of_parse_error {d : Diagnostic} (h : parse s = (.error d, rest)) :
    (parseComplete s).1 = .error d := by
  simp [parseComplete, h]

theorem parseComplete_of_parse_ok {e : Expr} (h : parse s = (.ok e, rest)) :
    (parseComplete s).1 = match rest.lookahead with
      | none => .ok e
      | some c => .error ⟨.trailingInput c, rest.position⟩ := by
  cases present : rest.lookahead <;> simp [parseComplete, h, present]

end Parser

theorem Expr.eq_number_of_shape {e : Expr} {value : Int64} (h : e.shape = .number value) :
    ∃ span, e = .number value span := by
  cases e with
  | number other span => exact ⟨span, by rw [Shape.number.inj h]⟩
  | symbol | binary => contradiction

namespace CommandLine

theorem stdout_complain (stdout : String) (d : Diagnostic) (text : Option String) :
    (complain stdout d text).stdout = stdout := by
  unfold complain
  split
  · split <;> rfl
  · rfl

theorem ending_complain_ne (stdout : String) (d : Diagnostic) (text : Option String) :
    (complain stdout d text).ending ≠ .exited 0 := by
  unfold complain
  split
  · split <;> simp
  · simp

/-- The ways a run can go: nothing is read, something is left over, what is read has no value, or it
has one. -/
inductive Conducted {σ : Type} [Source σ] (s : Scanner σ) (env : Environment)
    (text : Option String) : Report → Prop where
  | refused {d : Diagnostic} (failed : (Parser.parseComplete s).1 = .error d)
      (other : ∀ c, d.fault ≠ .trailingInput c) : Conducted s env text (complain "" d text)
  | unscanned {e : Expr} {d : Diagnostic} {c : Char}
      (failed : (Parser.parseComplete s).1 = .error d) (trailing : d.fault = .trailingInput c)
      (read : (Parser.parse s).1 = .ok e) :
      Conducted s env text ⟨.exited 1, "unscanned input after parsing " ++ e.display ++ "\n", ""⟩
  | failed {e : Expr} {d : Diagnostic} (read : (Parser.parseComplete s).1 = .ok e)
      (failed : e.eval env = .error d) :
      Conducted s env text (complain ("Found " ++ e.display ++ "\n") d text)
  | valued {e : Expr} {value : Int64} (read : (Parser.parseComplete s).1 = .ok e)
      (reached : e.eval env = .ok value) :
      Conducted s env text
        ⟨.exited 0, "Found " ++ e.display ++ "\n" ++ "Value = " ++ Word.text value ++ "\n", ""⟩

variable {σ τ : Type} [Source σ] [Source τ]

theorem conducted_run (s : Scanner σ) (env : Environment) (text : Option String) :
    Conducted s env text (run s env text) := by
  unfold run
  split
  · next d rest parsed =>
    exact .refused (Parser.parseComplete_of_parse_error parsed) (Parser.not_trailing_of_parse parsed)
  · next e rest parsed =>
    have whole := Parser.parseComplete_of_parse_ok parsed
    by_cases ended : rest.atEnd = true
    · have absent : rest.lookahead = none := by simpa [Scanner.atEnd] using ended
      rw [absent] at whole
      rw [if_pos ended]
      cases reached : e.eval env with
      | ok value => exact .valued whole reached
      | error d => exact .failed whole reached
    · obtain ⟨c, present⟩ : ∃ c, rest.lookahead = some c := by
        simpa [Scanner.atEnd, Option.isNone_iff_eq_none, Option.ne_none_iff_exists'] using ended
      rw [present] at whole
      rw [if_neg ended]
      exact .unscanned whole rfl (congrArg Prod.fst parsed)

section Ways

variable {s : Scanner σ} {env : Environment} {text : Option String} {e : Expr} {d : Diagnostic}

theorem Conducted.unique {first second : Report} (h : Conducted s env text first)
    (h' : Conducted s env text second) : first = second := by
  -- What reading and evaluating give tells any two ways apart.
  cases h <;> cases h' <;> simp_all

theorem run_of_refused (failed : (Parser.parseComplete s).1 = .error d)
    (other : ∀ c, d.fault ≠ .trailingInput c) : run s env text = complain "" d text :=
  (conducted_run s env text).unique (.refused failed other)

theorem run_of_unscanned {c : Char} (failed : (Parser.parseComplete s).1 = .error d)
    (trailing : d.fault = .trailingInput c) :
    ∃ e, (Parser.parse s).1 = .ok e ∧ run s env text =
      ⟨.exited 1, "unscanned input after parsing " ++ e.display ++ "\n", ""⟩ := by
  have way := conducted_run s env text
  generalize run s env text = report at way ⊢
  cases way with
  | unscanned _ _ read => exact ⟨_, read, rfl⟩
  | refused same other =>
    obtain rfl := Except.error.inj (failed.symm.trans same)
    exact absurd trailing (other c)
  | failed read _ | valued read _ => simp [failed] at read

theorem run_of_failed (read : (Parser.parseComplete s).1 = .ok e) (failed : e.eval env = .error d) :
    run s env text = complain ("Found " ++ e.display ++ "\n") d text :=
  (conducted_run s env text).unique (.failed read failed)

theorem run_of_valued {value : Int64} (read : (Parser.parseComplete s).1 = .ok e)
    (reached : e.eval env = .ok value) :
    run s env text =
      ⟨.exited 0, "Found " ++ e.display ++ "\n" ++ "Value = " ++ Word.text value ++ "\n", ""⟩ :=
  (conducted_run s env text).unique (.valued read reached)

theorem of_run_exited_zero (well : (run s env text).ending = .exited 0) :
    ∃ e value, (Parser.parseComplete s).1 = .ok e ∧ e.eval env = .ok value := by
  have way := conducted_run s env text
  generalize run s env text = report at way well
  cases way with
  | refused | failed => exact absurd well (ending_complain_ne _ _ _)
  | unscanned => simp at well
  | valued read reached => exact ⟨_, _, read, reached⟩

end Ways

/-- Whether the expression is kept decides only how a diagnostic is reported. -/
theorem run_alike {s : Scanner σ} {t : Scanner τ} (alike : s.Alike t) (env : Environment)
    (first second : Option String) :
    (run s env first).stdout = (run t env second).stdout ∧
      ((run s env first).ending = .exited 0 ↔ (run t env second).ending = .exited 0) := by
  obtain ⟨same, after⟩ := alike.parse
  unfold run
  generalize Parser.parse s = left at same after ⊢
  generalize Parser.parse t = right at same after ⊢
  obtain ⟨result, rest⟩ := left
  obtain ⟨other, last⟩ := right
  obtain rfl : result = other := same
  have ended : rest.atEnd = last.atEnd := by rw [Scanner.atEnd, after.lookahead, Scanner.atEnd]
  cases result with
  | error d => simp [stdout_complain, ending_complain_ne]
  | ok e =>
    simp only [ended]
    split
    · cases e.eval env <;> simp [stdout_complain, ending_complain_ne]
    · simp

/-- A run on a text ends well exactly if the text is an expression with a value, and prints what was
read and its value; otherwise it prints what was read so far, and nothing where nothing was read.
A run on the input stream prints and succeeds like one on the longest valid text that the stream
holds. -/
theorem run_agrees :
    (∀ (text : String) (env : Environment),
      let report := run (Scanner.ofText text) env (some text)
      (report.ending = .exited 0 ↔
        ∃ e value, Parser.parseText text = .ok e ∧ e.eval env = .ok value) ∧
      (∀ e value, Parser.parseText text = .ok e → e.eval env = .ok value →
        report.stdout =
          "Found " ++ e.display ++ "\n" ++ "Value = " ++ Word.text value ++ "\n") ∧
      (∀ e d, Parser.parseText text = .ok e → e.eval env = .error d →
        report.stdout = "Found " ++ e.display ++ "\n") ∧
      (∀ c position, Parser.parseText text = .error ⟨.trailingInput c, position⟩ →
        ∃ e, (Parser.parse (Scanner.ofText text)).1 = .ok e ∧
          report.stdout = "unscanned input after parsing " ++ e.display ++ "\n" ∧
          report.stderr = "") ∧
      ∀ d, Parser.parseText text = .error d → (∀ c, d.fault ≠ .trailingInput c) →
        report.stdout = "") ∧
    ∀ bytes : List UInt8,
      (∃ text, Utf8.Longest bytes text) ∧ Brings (Stream.ofBytes bytes).deliveries bytes ∧
      ∀ (stream : Stream) (text : String) (env : Environment),
        Brings stream.deliveries bytes → Utf8.Longest bytes text →
        (run (Scanner.ofSource stream) env none).stdout =
          (run (Scanner.ofText text) env (some text)).stdout ∧
        ((run (Scanner.ofSource stream) env none).ending = .exited 0 ↔
          (run (Scanner.ofText text) env (some text)).ending = .exited 0) := by
  constructor
  · intro text env
    refine ⟨⟨of_run_exited_zero, ?_⟩, ?_, ?_, ?_, ?_⟩
    · rintro ⟨e, value, read, reached⟩
      simp only [run_of_valued read reached]
    · intro e value read reached
      simp only [run_of_valued read reached]
    · intro e d read failed
      simp only [run_of_failed read failed, stdout_complain]
    · intro c position failed
      obtain ⟨e, read, same⟩ := run_of_unscanned failed rfl
      exact ⟨e, read, by rw [same], by rw [same]⟩
    · intro d failed other
      simp only [run_of_refused failed other, stdout_complain]
  · intro bytes
    have held := Stream.brings_ofBytes bytes
    refine ⟨⟨_, Stream.longest_yielded held⟩, held, ?_⟩
    intro stream text env brings longest
    have same := Stream.yielded_of_longest brings longest
    rw [← Source.yielded_text text.toList] at same
    exact run_alike (Scanner.alike_ofSource same) env none (some text)

/-- The stream is interrupted and breaks off inside a character, and the expression before that is
calculated. -/
theorem run_agrees_cut :
    (run (Scanner.ofSource (⟨[.bytes [0x37, 0x2F], .interruption, .bytes [0x32, 0xC3]]⟩ : Stream))
      Environment.empty none).stdout = "Found (7 / 2)\nValue = 3\n" := by
  have brings : Brings [.bytes [0x37, 0x2F], .interruption, .bytes [0x32, 0xC3]]
      [0x37, 0x2F, 0x32, 0xC3] := .chunk [0x37, 0x2F] (.interrupted (.chunk [0x32, 0xC3] .nothing))
  have yields : Source.Yields (⟨[.bytes [0x37, 0x2F], .interruption, .bytes [0x32, 0xC3]]⟩ : Stream)
      "7/2" := ⟨.failed .truncated, by simp, by decide⟩
  have longest : Utf8.Longest [0x37, 0x2F, 0x32, 0xC3] "7/2" := by
    have found := Stream.longest_yielded brings
    rwa [yields.yielded_eq, String.ofList_toList] at found
  rw [((run_agrees.2 _).2.2 ⟨_⟩ "7/2" Environment.empty brings longest).1]
  have read : Parser.parseText "7/2" =
      .ok (.binary .divide 1 (.number 7 ⟨0, 1⟩) (.number 2 ⟨2, 3⟩) ⟨0, 3⟩) := by decide +kernel
  have printed := (run_agrees.1 "7/2" Environment.empty).2.1 _ 3 read (by decide +kernel)
  exact printed.trans (by decide +kernel)

/-- A diagnostic that a run on a text has to draw, as it is told. That input is left over is told
without one. -/
def Draws (text : String) (env : Environment) (d : Diagnostic) : Prop :=
  ∃ found : Diagnostic, d = found.told ∧
    ((Parser.parseText text = .error found ∧ ∀ c, found.fault ≠ .trailingInput c) ∨
      ∃ e, Parser.parseText text = .ok e ∧ e.eval env = .error found)

open Text Diagnostic

theorem ending_complain (stdout : String) (d : Diagnostic) (text : String) :
    (complain stdout d (some text)).ending =
      if caretWidth (placeOf text.toList d.told.position) ≤ 65535 then .exited 1
      else .crashed ⟨caretWidth (placeOf text.toList d.told.position)⟩ := by
  by_cases fits : caretWidth (placeOf text.toList d.told.position) ≤ 65535
  · simp [complain, render, widest, fits]
  · simp [complain, render, widest, fits]

theorem ending_of_draws {text : String} {env : Environment} {d : Diagnostic}
    (h : Draws text env d) :
    (run (Scanner.ofText text) env (some text)).ending =
      if caretWidth (placeOf text.toList d.position) ≤ 65535 then .exited 1
      else .crashed ⟨caretWidth (placeOf text.toList d.position)⟩ := by
  obtain ⟨found, rfl, ⟨failed, other⟩ | ⟨e, read, failed⟩⟩ := h
  · rw [run_of_refused failed other, ending_complain]
  · rw [run_of_failed read failed, ending_complain]

theorem draws_or_exited (text : String) (env : Environment) :
    (∃ d, Draws text env d) ∨
      (run (Scanner.ofText text) env (some text)).ending = .exited 0 ∨
      (run (Scanner.ofText text) env (some text)).ending = .exited 1 := by
  have way := conducted_run (Scanner.ofText text) env (some text)
  generalize run (Scanner.ofText text) env (some text) = report at way ⊢
  cases way with
  | refused failed other => exact .inl ⟨_, _, rfl, .inl ⟨failed, other⟩⟩
  | failed read failed => exact .inl ⟨_, _, rfl, .inr ⟨_, read, failed⟩⟩
  | unscanned => exact .inr (.inr rfl)
  | valued => exact .inr (.inl rfl)

/-- Unless the caret of a diagnostic is too far to the right, a run ends with a code. -/
theorem crashed_or_exited (text : String) (env : Environment) :
    (∃ d, Draws text env d ∧ 65535 < caretWidth (placeOf text.toList d.position) ∧
      (run (Scanner.ofText text) env (some text)).ending =
        .crashed ⟨caretWidth (placeOf text.toList d.position)⟩) ∨
    (run (Scanner.ofText text) env (some text)).ending = .exited 0 ∨
    (run (Scanner.ofText text) env (some text)).ending = .exited 1 := by
  rcases draws_or_exited text env with ⟨d, draws⟩ | exited
  · by_cases fits : caretWidth (placeOf text.toList d.position) ≤ 65535
    · exact .inr (.inr ((ending_of_draws draws).trans (if_pos fits)))
    · exact .inl ⟨d, draws, Nat.lt_of_not_le fits, (ending_of_draws draws).trans (if_neg fits)⟩
  · exact .inr exited

/-- A run on a text ends with 0 or 1, except where the caret of a diagnostic would be more than 65535
columns wide; evaluation never lacks an operand. So lines of at most 65534 characters are safe. -/
theorem run_ending (text : String) (env : Environment) :
    let ending := (run (Scanner.ofText text) env (some text)).ending
    (∀ e trace, (Machine.run env (Machine.ofExpr e trace)).1 ≠ .stuck) ∧
    (ending = .exited 0 ∨ ending = .exited 1 ∨ ∃ cause, ending = .crashed cause) ∧
    (∀ cause, ending = .crashed cause ↔ ∃ d, Draws text env d ∧
      caretWidth (placeOf text.toList d.position) = cause.width ∧ 65535 < cause.width) ∧
    ((∀ line ∈ lines text.toList, line.length ≤ 65534) →
      ending = .exited 0 ∨ ending = .exited 1) := by
  intro ending
  refine ⟨?_, ?_, ?_, ?_⟩
  · intro e trace stuck
    have result := Machine.result?_run env e trace
    rw [stuck] at result
    contradiction
  · rcases crashed_or_exited text env with ⟨d, _, _, crashed⟩ | well | ill
    · exact .inr (.inr ⟨_, crashed⟩)
    · exact .inl well
    · exact .inr (.inl ill)
  · intro cause
    constructor
    · intro crashed
      rcases crashed_or_exited text env with ⟨d, draws, wide, same⟩ | well | ill
      · obtain rfl := Ending.crashed.inj (crashed.symm.trans same)
        exact ⟨d, draws, rfl, wide⟩
      · exact absurd (crashed.symm.trans well) (by simp)
      · exact absurd (crashed.symm.trans ill) (by simp)
    · rintro ⟨d, draws, width, wide⟩
      have crashed := ending_of_draws draws
      rw [width, if_neg (Nat.not_le.mpr wide)] at crashed
      exact crashed
  · intro short
    rcases crashed_or_exited text env with ⟨d, _, wide, _⟩ | exited
    · have column := column_placeOf_le short d.position
      simp only [caretWidth] at wide
      omega
    · exact exited

/-- A division by zero with a gap before its operator. -/
def division (gap : Nat) : List Char := '1' :: (List.replicate gap ' ' ++ ['/', '0'])

theorem length_division (gap : Nat) : (division gap).length = gap + 3 := by
  simp [division]

theorem tokens_division (gap : Nat) :
    tokens (division gap) = [.literal ['1'], .mark '/', .literal ['0']] := by
  have blank : tokens (List.replicate gap ' ') = [] := by
    rw [← tokens_dropWhile_blank, List.dropWhile_eq_nil_iff.mpr, tokens_nil]
    simp [show isBlank ' ' = true by decide]
  have front : tokens ('1' :: List.replicate gap ' ') = [.literal ['1']] := by
    rw [tokens_literal (by decide) (by decide) (by decide)]
    simp [blank]
  have back : tokens ['/', '0'] = [.mark '/', .literal ['0']] := by
    rw [tokens_mark (by decide) (by decide) (by decide), tokens_digits (by simp) (by simp)]
  have whole := tokens_append (c := '/') (by decide) (by decide) ('1' :: List.replicate gap ' ') ['0']
  rwa [front, back] at whole

theorem position_of_division {gap position : Nat} (here : (division gap)[position]? = some '/') :
    position = gap + 1 := by
  cases position with
  | zero => simp [division] at here
  | succ position =>
    rw [division, List.getElem?_cons_succ] at here
    by_cases before : position < gap
    · simp [List.getElem?_append, before] at here
    · rw [List.getElem?_append_right (by simp; omega), List.length_replicate] at here
      cases after : position - gap with
      | zero => omega
      | succ =>
        rw [after, List.getElem?_cons_succ] at here
        exact absurd (List.mem_of_getElem? here) (by decide)

theorem derives_division (gap : Nat) :
    Derives (.chain .additive) (tokens (division gap)) (.binary .divide (.number 1) (.number 0)) 0 := by
  have one : Derives .factor [.literal ['1']] (.number 1) 0 := .literal (by decide)
  have zero : Derives .factor [.literal ['0']] (.number 0) 0 := .literal (by decide)
  have product : Derives (.spine .multiplicative)
      ([.literal ['1']] ++ .mark '/' :: [.literal ['0']])
      (.binary .divide (.number 1) (.number 0)) (max 0 0) := .again (.first one) .divide zero
  rw [tokens_division]
  exact .ended (.first (.ended product))

/-- The division is read, and it fails at its operator however far to the right that is. -/
theorem draws_division (gap : Nat) (env : Environment) :
    Draws (String.ofList (division gap)) env ⟨.divisionByZero, Position.told (gap + 1)⟩ := by
  have derived := derives_division gap
  rw [← String.toList_ofList (l := division gap)] at derived
  obtain ⟨e, read, same⟩ := derived.parseText (Nat.zero_le _)
  refine ⟨⟨.divisionByZero, gap + 1⟩, rfl, .inr ⟨e, read, ?_⟩⟩
  obtain ⟨rest, descent, _⟩ := Parser.parseComplete_ok_iff.mp read
  have placed := (descent.laid (Scanner.along_ofText _) rfl).placed
  rw [String.toList_ofList] at placed
  rcases e with _ | _ | ⟨op, position, left, right, span⟩
  · contradiction
  · contradiction
  · obtain ⟨rfl, first, second⟩ := Shape.binary.inj same
    obtain ⟨_, _, _, _, _, _, here⟩ := placed
    obtain rfl := position_of_division here
    obtain ⟨_, rfl⟩ := Expr.eq_number_of_shape first
    obtain ⟨_, rfl⟩ := Expr.eq_number_of_shape second
    simp [Expr.eval_eq_reduce, Expr.reduce, Operator.apply]

theorem caretWidth_division (gap : Nat) :
    caretWidth (placeOf (division gap) (gap + 1)) = gap + 2 := by
  have proper : division gap ≠ [] := List.cons_ne_nil _ _
  have plain : '\n' ∉ division gap := by simp [division]
  have inside : gap + 1 < (division gap).length := by
    rw [length_division]
    omega
  have visible : isIndent '1' = false := by decide
  simp only [placeOf, lines_of_plain proper plain, Place.search, if_pos inside]
  simp [caretWidth, division, visible]

/-- Not every run ends with a code: a division by zero behind a long enough gap does not. -/
theorem run_ending_wide :
    (division 65534).length = 65537 ∧
    (run (Scanner.ofText (String.ofList (division 65534))) Environment.empty
      (some (String.ofList (division 65534)))).ending = .crashed ⟨65536⟩ := by
  refine ⟨length_division 65534, ?_⟩
  have near : Position.told (65534 + 1) = 65534 + 1 := by decide
  rw [ending_of_draws (draws_division 65534 Environment.empty), near, String.toList_ofList,
    caretWidth_division, if_neg (by decide)]

end CommandLine

end Reckoner
