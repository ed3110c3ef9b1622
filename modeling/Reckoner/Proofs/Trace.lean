import Reckoner.Calculation
import Reckoner.Proofs.Drawing
import Reckoner.Proofs.Simulation

/-! The trace of a calculation goes through the tree in postorder, first while the tree is read and
then while it is evaluated. Besides that a trace holds the failure of the source, if it fails. The
`account` of a scanner keeps the two apart: taking characters does not change it, whether or not
the source fails on the way, and a token or a reduction adds exactly its own event. The main
statement is on the trace as it is written, line by line: the words of each line and the values in
it. -/
namespace Reckoner

def Event.isFailure : Event → Bool
  | sourceFailed _ => true
  | _ => false

theorem Reading.reverse_events (reading : Reading) : reading.events.reverse = reading.events := by
  cases reading <;> rfl

namespace Source

variable {σ : Type} [Source σ]

/-- The first answer of a source that is no character: the one after those it yields. -/
def closing (source : σ) : Reading :=
  (readings ((yielded source).length + 1) source).getLast?.getD .ended

theorem closing_of_char {source rest : σ} {c : Char} [Ends source]
    (h : next source = (.char c, rest)) : closing source = closing rest := by
  unfold closing
  rw [yielded_of_char h, List.length_cons, readings, h]
  simp [readings]

theorem closing_of_no_char {source : σ} (h : ∀ c, (next source).1 ≠ .char c) :
    closing source = (next source).1 := by
  simp [closing, yielded_of_no_char h, readings]

theorem closing_of_readings {source : σ} {cs : List Char} {last : Reading}
    (stops : ∀ c, last ≠ .char c)
    (answers : readings (cs.length + 1) source = cs.map Reading.char ++ [last]) :
    closing source = last := by
  rw [closing, yielded_of_readings stops answers, answers]
  simp

theorem closing_text (cs : List Char) : closing cs = .ended := by
  induction cs with
  | nil => exact closing_of_no_char fun c h => by simp [next, nextOfText] at h
  | cons c cs ih =>
    have first : next (c :: cs) = (.char c, cs) := rfl
    rw [closing_of_char first, ih]

end Source

namespace Scanner

variable {σ : Type} [Source σ]

/-- The failure that is still to come, if the source is going to fail. -/
def ahead (s : Scanner σ) : List Event :=
  match s.lookahead with
  | some _ => (Source.closing s.source).events
  | none => []

/-- The events but for failures, latest first, and the failures, met or still to come. -/
def account (s : Scanner σ) : List Event × List Event :=
  (s.trace.filter fun event => !event.isFailure, s.ahead ++ s.trace.filter Event.isFailure)

theorem account_load (source : σ) (ends : Source.Ends source) (position lastEnd : Nat)
    (trace : List Event) :
    (load source ends position lastEnd trace).account =
      (trace.filter fun event => !event.isFailure,
        (Source.closing source).events ++ trace.filter Event.isFailure) := by
  rcases given : Source.next source with ⟨c | _ | failure, rest⟩
  · simp [account, ahead, load, given, Reading.char?, Reading.events, Source.closing_of_char given]
  · have spent : ∀ c, (Source.next source).1 ≠ .char c := by simp [given]
    simp [account, ahead, load, given, Reading.char?, Reading.events,
      Source.closing_of_no_char spent]
  · have spent : ∀ c, (Source.next source).1 ≠ .char c := by simp [given]
    have told : (Event.sourceFailed failure).isFailure = true := rfl
    simp [account, ahead, load, given, Reading.char?, Reading.events,
      Source.closing_of_no_char spent, told]

@[simp] theorem account_advance (s : Scanner σ) : s.advance.account = s.account := by
  cases present : s.lookahead with
  | none => rw [advance_of_none present]
  | some c =>
    rw [advance_of_some present, account_load]
    simp [account, ahead, present]

theorem account_takeFrom (accept : Char → Bool) (taken : List Char) (s : Scanner σ) :
    (s.takeFrom accept taken).2.account = s.account := by
  fun_induction takeFrom accept taken s with
  | case1 taken s c present accepted ih => rw [ih, account_advance]
  | case2 | case3 => rfl

@[simp] theorem account_takeWhile (accept : Char → Bool) (s : Scanner σ) :
    (s.takeWhile accept).2.account = s.account := account_takeFrom ..

@[simp] theorem account_skipBlanks (s : Scanner σ) : s.skipBlanks.account = s.account :=
  account_takeWhile ..

@[simp] theorem account_skip (s : Scanner σ) : s.skip.account = s.account := by simp [skip]

theorem account_record (s : Scanner σ) {event : Event} (other : event.isFailure = false) :
    (s.record event).account = (event :: s.account.1, s.account.2) := by
  simp [account, ahead, record, other]

theorem account_identifier (s : Scanner σ) :
    s.identifier.2.account = (.identifierRead s.identifier.1 :: s.account.1, s.account.2) := by
  have last : s.identifier.2 =
      (s.advance.takeWhile Text.isLetterOrNumeric).2.skipBlanks.record
        (.identifierRead s.identifier.1) := rfl
  rw [last, account_record _ rfl, account_skipBlanks, account_takeWhile, account_advance]

theorem account_integer (s : Scanner σ) :
    s.integer.2.account = (.integerRead (String.ofList (s.upcoming.takeWhile Char.isDigit)) ::
      s.account.1, s.account.2) := by
  rw [integer_snd, account_record _ rfl, account_skipBlanks, account_takeWhile]

theorem account_ofSource (source : σ) [Source.Ends source] :
    (ofSource source).account = ([], (Source.closing source).events) := by
  simp [ofSource, account_load]

theorem account_of_end {s : Scanner σ} (absent : s.lookahead = none) :
    s.account = (s.trace.filter fun event => !event.isFailure, s.trace.filter Event.isFailure) := by
  simp [account, ahead, absent]

end Scanner

/-- The characters of a text that a span covers. -/
def Span.slice (span : Span) (text : List Char) : List Char :=
  (text.drop span.start).take (span.stop - span.start)

theorem Span.Holds.slice_eq {span : Span} {text cs : List Char} (h : span.Holds text cs) :
    span.slice text = cs := by
  obtain ⟨before, after, rfl, start, stop⟩ := h
  simp [slice, start, stop]

/-- What is told of a node that was read from a text: a literal as it is written there. -/
def Node.reading (text : List Char) : Node → Event
  | number _ span => .integerRead (String.ofList (span.slice text))
  | symbol name _ => .identifierRead name
  | binary operator position _ => .reduced operator position

def Node.operation? : Node → Option (Operator × Nat)
  | binary operator position _ => some (operator, position)
  | _ => none

def Expr.reading (text : List Char) (e : Expr) : List Event :=
  e.postorder.map (Node.reading text)

variable {σ : Type} [Source σ]

/-- Reading a tree tells its nodes in postorder, and nothing else but failures. -/
theorem Descent.account {part : Part} {room : Nat} {s rest : Scanner σ} {text : List Char}
    {result : Except Diagnostic Expr} (h : Descent part room s result rest) (along : s.Along text)
    {e : Expr} (ok : result = .ok e) :
    rest.account = ((e.reading text).reverse ++ s.account.1, s.account.2) := by
  induction h generalizing e with
  | @symbol room s c present letter =>
    obtain rfl := Except.ok.inj ok
    rw [s.account_identifier]
    rfl
  | @number room s rest c value present other digit fits =>
    obtain rfl := Except.ok.inj ok
    have told := s.account_integer
    have holds := along.holds_integer present digit
    rw [fits] at told holds
    rw [told, ← holds.slice_eq]
    rfl
  | tooLarge | noFactor | tooDeep | unclosed | groupFails | firstFails | againFails =>
    contradiction
  | @group room s rest f present inner closed ih =>
    have inside := ih (along.onward (.skip s)) ok
    simpa using inside
  | first _ ih | ended _ _ ih => exact ih along ok
  | @again room power s middle rest left right op spine found same operand ihs iho =>
    obtain rfl := Except.ok.inj ok
    have between := along.onward spine.onward
    have first := ihs along rfl
    have second := iho (between.onward (.skip middle)) rfl
    rw [Scanner.account_skip] at second
    rw [Scanner.account_record _ rfl, second, first]
    simp [Expr.reading, Expr.postorder, Expr.join, Node.reading]

namespace Application

def event (a : Application) : Event :=
  .applied (Int64.ofInt a.left) a.operator (Int64.ofInt a.right) (Int64.ofInt a.value)

/-- The values of an application are words, so that its event shows them as they are. -/
structure InWords (a : Application) : Prop where
  left : (Int64.ofInt a.left).toInt = a.left
  right : (Int64.ofInt a.right).toInt = a.right
  value : (Int64.ofInt a.value).toInt = a.value

theorem inWords (op : Operator) (position : Nat) (l r value : Int64) :
    InWords ⟨op, position, l.toInt, r.toInt, value.toInt⟩ := by
  constructor <;> simp

def untilFailure (applications : List Application) : List Application :=
  applications.takeWhile fun a => !decide a.Fails

end Application

open Application (untilFailure)

namespace Expr

/-- The applications that evaluation gets to perform. -/
def performed (env : Environment) (e : Expr) : List Application :=
  untilFailure (e.applications env)

def conclusion (env : Environment) (e : Expr) : Event :=
  match e.eval env with
  | .ok value => .evaluated e value
  | .error diagnostic => .evaluationFailed e diagnostic

def evaluation (env : Environment) (e : Expr) : List Event :=
  .evaluating env.size :: ((e.performed env).map Application.event ++ [e.conclusion env])

variable {env : Environment} {e : Expr}

theorem Verdict.untilFailure_ok {value : Int64} (done : e.Verdict env (.ok value))
    (more : List Application) :
    untilFailure (e.applications env ++ more) = e.performed env ++ untilFailure more := by
  have passes : ∀ a ∈ e.applications env, (!decide a.Fails) = true := by
    intro a member
    simpa using done.1 a member
  have all : e.performed env = e.applications env := List.takeWhile_eq_self_iff.mpr passes
  rw [all, untilFailure, List.takeWhile_append_of_pos passes, untilFailure]

theorem Verdict.untilFailure_error {diagnostic : Diagnostic}
    (failed : e.Verdict env (.error diagnostic)) (more : List Application) :
    untilFailure (e.applications env ++ more) = e.performed env := by
  obtain ⟨a, first, _⟩ := failed
  have fails : a.Fails := by simpa using List.find?_some first
  rw [untilFailure, List.takeWhile_append, if_neg, performed, untilFailure]
  intro all
  have whole := (List.takeWhile_prefix _).eq_of_length all
  have passes := List.takeWhile_eq_self_iff.mp whole a (List.mem_of_find?_eq_some first)
  simp [fails] at passes

/-- Evaluation tells each application it performs, with its exact values. The case of a binary node
goes as evaluation does: the applications of the right operand come after those of the left one and
only if none of these fails, and that of the node comes last. -/
theorem reduce_performed (env : Environment) (e : Expr) (trace : List Event) :
    (e.reduce env trace).2 = ((e.performed env).map Application.event).reverse ++ trace ∧
      ∀ a ∈ e.performed env, a.InWords := by
  induction e generalizing trace with
  | number | symbol => simp [reduce, performed, applications, untilFailure]
  | binary op position left right span ihl ihr =>
    obtain ⟨first, leftWords⟩ := ihl trace
    have leftVerdict := verdict_reduce env left trace
    simp only [reduce, performed, applications, List.append_assoc]
    split
    · next diagnostic middle read =>
      rw [read] at first leftVerdict
      rw [leftVerdict.untilFailure_error]
      exact ⟨first, leftWords⟩
    · next l middle read =>
      rw [read] at first leftVerdict
      obtain ⟨second, rightWords⟩ := ihr middle
      have rightVerdict := verdict_reduce env right middle
      simp only at first
      rw [leftVerdict.untilFailure_ok]
      split
      · next diagnostic rest read =>
        rw [read] at second rightVerdict
        simp only at second
        rw [rightVerdict.untilFailure_error, second, first]
        exact ⟨by simp, List.forall_mem_append.mpr ⟨leftWords, rightWords⟩⟩
      · next r rest read =>
        rw [read] at second rightVerdict
        simp only at second
        rw [rightVerdict.untilFailure_ok, exact_binary, ← leftVerdict.2, ← rightVerdict.2]
        have words := List.forall_mem_append.mpr ⟨leftWords, rightWords⟩
        rw [← List.append_assoc]
        cases applied : op.apply l r with
        | ok value =>
          have sound := Operator.not_fails_of_apply position applied
          rw [((Operator.apply_eq_ok_iff op l r value).mp applied).2] at sound ⊢
          have last : untilFailure [⟨op, position, l.toInt, r.toInt, value.toInt⟩] =
              [⟨op, position, l.toInt, r.toInt, value.toInt⟩] := by
            simp [untilFailure, sound]
          rw [last]
          refine ⟨by simp [second, first, Application.event], List.forall_mem_append.mpr ⟨words, ?_⟩⟩
          simpa using Application.inWords op position l r value
        | error fault =>
          have fails := (Operator.fails_of_apply position applied).1
          have none : untilFailure [⟨op, position, l.toInt, r.toInt,
              op.exactValue l.toInt r.toInt⟩] = [] := by
            simp [untilFailure, fails]
          rw [none, List.append_nil]
          exact ⟨by simp [second, first], words⟩

theorem evaluate_snd (env : Environment) (e : Expr) :
    (e.evaluate env).2.reverse = e.evaluation env := by
  have told := (reduce_performed env e [.evaluating env.size]).1
  have result := reduce_fst env e [.evaluating env.size]
  rw [← evalFrom_eq_reduce] at told result
  unfold evaluate evaluation conclusion
  split
  all_goals
    next met =>
    rw [met] at told result
    simp only at told result
    simp [← result, told]

theorem applications_postorder (env : Environment) (e : Expr) :
    (e.applications env).map (fun a => (a.operator, a.position)) =
      e.postorder.filterMap Node.operation? := by
  induction e with
  | number | symbol => rfl
  | binary op position left right span ihl ihr =>
    simp [applications, postorder, ihl, ihr, Node.operation?]

end Expr

/-- The events of a calculation, but for the failure of its source. -/
theorem eventsOf_account {source : σ} {text : String} {e : Expr} [Source.Ends source]
    (yields : Source.yielded source = text.toList) (read : Parser.parseText text = .ok e)
    (env : Environment) :
    ∃ told : List Event, eventsOf source env = told ++ .parsed e true :: e.evaluation env ∧
      told.filter (fun event => !event.isFailure) = e.reading text.toList ∧
      told.filter Event.isFailure = (Source.closing source).events := by
  have alike : (Scanner.ofText text).Alike (Scanner.ofSource source) :=
    Scanner.alike_ofSource ((Source.yielded_text _).trans yields.symm)
  obtain ⟨other, descent, ended⟩ := Parser.parseComplete_ok_iff.mp read
  obtain ⟨rest, descent, after⟩ := descent.alike alike
  have absent : rest.lookahead = none := after.lookahead.symm.trans ended
  have along := Scanner.along_ofSource source
  rw [yields] at along
  have account := descent.account along rfl
  rw [Scanner.account_of_end absent, Scanner.account_ofSource] at account
  obtain ⟨told, failures⟩ := Prod.mk.inj account
  have sum : (Parser.sum nestingLimit).run (Scanner.ofSource source) = (.ok e, rest) :=
    Parser.run_chain_iff.mpr descent
  refine ⟨rest.trace.reverse, ?_, ?_, ?_⟩
  · simp [eventsOf, Parser.parseComplete, Parser.parse, sum, Scanner.record, absent, Scanner.atEnd,
      Expr.evaluate_snd]
  · simpa using congrArg List.reverse told
  · simpa [Reading.reverse_events] using congrArg List.reverse failures

theorem eventsOf_of_ended {source : σ} {text : String} {e : Expr} [Source.Ends source]
    (yields : Source.yielded source = text.toList) (ends : Source.closing source = .ended)
    (read : Parser.parseText text = .ok e) (env : Environment) :
    eventsOf source env = e.reading text.toList ++ .parsed e true :: e.evaluation env := by
  obtain ⟨told, events, same, failures⟩ := eventsOf_account yields read env
  have none : ∀ event ∈ told, (!event.isFailure) = true := by
    simpa [ends, Reading.events] using failures
  rw [events, ← same, List.filter_eq_self.mpr none]

theorem eventsOf_of_failed {source : σ} {text : String} {e : Expr} {failure : Failure}
    [Source.Ends source] (yields : Source.yielded source = text.toList)
    (fails : Source.closing source = .failed failure) (read : Parser.parseText text = .ok e)
    (env : Environment) :
    ∃ before after, e.reading text.toList = before ++ after ∧
      eventsOf source env =
        before ++ .sourceFailed failure :: after ++ .parsed e true :: e.evaluation env := by
  obtain ⟨told, events, same, failures⟩ := eventsOf_account yields read env
  rw [fails, Reading.events] at failures
  obtain ⟨before, after, rfl, first, failed, second⟩ := List.filter_eq_cons_iff.mp failures
  have none : ∀ event ∈ after, event.isFailure = false := by simpa using second
  refine ⟨before, after, ?_, events⟩
  rw [← same, List.filter_append, List.filter_cons_of_neg (by simp [failed])]
  have front : before.filter (fun event => !event.isFailure) = before :=
    List.filter_eq_self.mpr fun event member => by simpa using first event member
  have back : after.filter (fun event => !event.isFailure) = after :=
    List.filter_eq_self.mpr fun event member => by simp [none event member]
  rw [front, back]

/-- A line of a trace: its words, and the values in it with their names. -/
abbrev Line := String × List (String × String)

def Event.line (event : Event) : Line := (event.message, event.fields)

/-- The line of a node that was read from a text. -/
def Node.line (text : List Char) : Node → Line
  | number _ span => ("read integer", [("literal", String.ofList (span.slice text))])
  | symbol name _ => ("read identifier", [("identifier", name)])
  | binary operator position _ => ("reduced binary expression",
      [("operator", operator.text), ("position", Decimal.ofNat position)])

/-- The line of an application, with the exact values. -/
def Application.line (a : Application) : Line :=
  ("evaluated binary expression", [("left", Decimal.ofInt a.left), ("operator", a.operator.text),
    ("right", Decimal.ofInt a.right), ("value", Decimal.ofInt a.value)])

namespace Expr

/-- The line of the result. -/
def resultLine (env : Environment) (e : Expr) : Line :=
  match e.eval env with
  | .ok value => ("evaluated expression", [("tree", e.display), ("value", Word.text value)])
  | .error diagnostic =>
    ("evaluation failed", [("tree", e.display), ("error", diagnostic.message)])

/-- The lines from the tree on: the tree as it is displayed, and its evaluation. -/
def linesAfter (env : Environment) (e : Expr) : List Line :=
  ("parsed expression", [("tree", e.display), ("at_end", "true")]) ::
    ("evaluating expression", [("bindings", Decimal.ofNat env.size)]) ::
      ((e.performed env).map Application.line ++ [e.resultLine env])

end Expr

theorem Application.InWords.line_event {a : Application} (words : a.InWords) :
    a.event.line = a.line := by
  simp only [event, Event.line, Event.message, Event.fields, Word.text, words.left, words.right,
    words.value, line]

section Lines

variable {text : String} {e : Expr} {env : Environment}

theorem Node.line_reading {node : Node}
    (fits : ∀ op position, node.operation? = some (op, position) → position ≤ Position.greatest) :
    (node.reading text.toList).line = node.line text.toList := by
  cases node with
  | number | symbol => rfl
  | binary op position span =>
    have same := Position.told_of_le (fits op position rfl)
    simp only [reading, Event.line, Event.message, Event.fields, same, line]

/-- In a text of fewer than 2 ^ 32 characters no operator is too far to tell its position. -/
theorem Expr.lines_reading (short : text.length < 2 ^ 32) (read : Parser.parseText text = .ok e) :
    (e.reading text.toList).map Event.line = e.postorder.map (Node.line text.toList) := by
  obtain ⟨rest, descent, _⟩ := Parser.parseComplete_ok_iff.mp read
  have placed := (descent.laid (Scanner.along_ofText text) rfl).placed
  rw [Expr.reading, List.map_map]
  apply List.map_congr_left
  intro node member
  apply Node.line_reading
  intro op position found
  have operation : (op, position) ∈ e.postorder.filterMap Node.operation? :=
    List.mem_filterMap.mpr ⟨node, member, found⟩
  rw [← Expr.applications_postorder .empty] at operation
  obtain ⟨a, applied, same⟩ := List.mem_map.mp operation
  obtain ⟨_, rfl⟩ := Prod.mk.inj same
  have inside := (List.getElem?_eq_some_iff.mp (placed.application applied)).1
  rw [String.length_toList] at inside
  simp only [Position.greatest]
  omega

theorem Expr.line_conclusion (short : text.length < 2 ^ 32) (read : Parser.parseText text = .ok e) :
    (e.conclusion env).line = e.resultLine env := by
  unfold conclusion resultLine
  split
  · rfl
  · next diagnostic failed =>
    have within := (apt_of_eval read failed).within
    rw [String.length_toList] at within
    have fits : diagnostic.position ≤ Position.greatest := by
      simp only [Position.greatest]
      omega
    simp only [Event.line, Event.message, Event.fields, Diagnostic.told_of_le fits]

theorem Expr.lines_evaluation (short : text.length < 2 ^ 32) (read : Parser.parseText text = .ok e) :
    (Event.parsed e true :: e.evaluation env).map Event.line = e.linesAfter env := by
  have applied : (e.performed env).map (fun a => a.event.line) =
      (e.performed env).map Application.line :=
    List.map_congr_left fun a member => ((reduce_performed env e []).2 a member).line_event
  simp only [evaluation, List.map_cons, List.map_append, List.map_map, Function.comp_def, applied,
    line_conclusion short read]
  rfl

end Lines

/-- A calculation writes a line for each node of its tree in postorder as it is read, the tree, and
then a line for each binary node in postorder as it is applied, up to the first that fails, and the
result. A stream makes for the same lines as the text it yields, and for one more in between if it
failed. -/
theorem eventsOf_postorder (text : String) (short : text.length < 2 ^ 32) (e : Expr)
    (read : Parser.parseText text = .ok e) (env : Environment) :
    (eventsOf text.toList env).map Event.line =
      e.postorder.map (Node.line text.toList) ++ e.linesAfter env ∧
    (e.applications env).map (fun a => (a.operator, a.position)) =
      e.postorder.filterMap Node.operation? ∧
    ∀ stream : Stream,
      (Source.readings (text.toList.length + 1) stream = text.toList.map .char ++ [.ended] →
        (eventsOf stream env).map Event.line =
          e.postorder.map (Node.line text.toList) ++ e.linesAfter env) ∧
      ∀ failure,
        Source.readings (text.toList.length + 1) stream =
          text.toList.map .char ++ [.failed failure] →
        ∃ before after, e.postorder.map (Node.line text.toList) = before ++ after ∧
          (eventsOf stream env).map Event.line = before ++
            ("source failed, treating as end of input", [("error", failure.message)]) :: after ++
              e.linesAfter env := by
  have front := Expr.lines_reading short read
  have back : (Event.parsed e true :: e.evaluation env).map Event.line = e.linesAfter env :=
    Expr.lines_evaluation short read
  refine ⟨?_, Expr.applications_postorder env e, ?_⟩
  · rw [eventsOf_of_ended (Source.yielded_text _) (Source.closing_text _) read env, List.map_append,
      front, back]
  intro stream
  constructor
  · intro answers
    rw [eventsOf_of_ended (Source.yielded_of_readings (by simp) answers)
      (Source.closing_of_readings (by simp) answers) read env, List.map_append, front, back]
  · intro failure answers
    obtain ⟨before, after, split, events⟩ :=
      eventsOf_of_failed (Source.yielded_of_readings (by simp) answers)
        (Source.closing_of_readings (by simp) answers) read env
    refine ⟨before.map Event.line, after.map Event.line, ?_, ?_⟩
    · rw [← front, split, List.map_append]
    · rw [events, List.map_append, List.map_append, List.map_cons, back]
      rfl

/-- The device fails after the last digit, so its failure is told before that literal. The division
fails, so the sum is read and never applied. -/
theorem eventsOf_postorder_failing :
    ∃ e, Parser.parseText "x/(3-03)+1" = .ok e ∧
      e.postorder.map (Node.line "x/(3-03)+1".toList) =
        [("read identifier", [("identifier", "x")]), ("read integer", [("literal", "3")]),
          ("read integer", [("literal", "03")]),
          ("reduced binary expression", [("operator", "-"), ("position", "4")]),
          ("reduced binary expression", [("operator", "/"), ("position", "1")]),
          ("read integer", [("literal", "1")]),
          ("reduced binary expression", [("operator", "+"), ("position", "8")])] ∧
      e.linesAfter .empty =
        [("parsed expression", [("tree", "((x / (3 - 3)) + 1)"), ("at_end", "true")]),
          ("evaluating expression", [("bindings", "0")]),
          ("evaluated binary expression",
            [("left", "3"), ("operator", "-"), ("right", "3"), ("value", "0")]),
          ("evaluation failed", [("tree", "((x / (3 - 3)) + 1)"),
            ("error", "division by zero at 1")])] ∧
      ∃ before after, e.postorder.map (Node.line "x/(3-03)+1".toList) = before ++ after ∧
        (eventsOf (⟨[.bytes "x/(3-03)+1".toUTF8.toList,
          .failure (.named "Other") "unplugged"]⟩ : Stream) .empty).map Event.line = before ++
            ("source failed, treating as end of input", [("error", "unplugged")]) :: after ++
              e.linesAfter .empty := by
  have read : Parser.parseText "x/(3-03)+1" = .ok
      (.binary .plus 8
        (.binary .divide 1 (.symbol "x" ⟨0, 1⟩)
          (.binary .minus 4 (.number 3 ⟨3, 4⟩) (.number 3 ⟨5, 7⟩) ⟨3, 7⟩) ⟨0, 7⟩)
        (.number 1 ⟨9, 10⟩) ⟨0, 10⟩) := by
    decide +kernel
  have answers : Source.readings ("x/(3-03)+1".toList.length + 1)
      (⟨[.bytes "x/(3-03)+1".toUTF8.toList, .failure (.named "Other") "unplugged"]⟩ : Stream) =
        "x/(3-03)+1".toList.map .char ++ [.failed (.device (.named "Other") "unplugged")] := by
    decide +kernel
  exact ⟨_, read, by decide +kernel, by decide +kernel,
    ((eventsOf_postorder _ (by decide) _ read .empty).2.2 _).2 _ answers⟩

end Reckoner
