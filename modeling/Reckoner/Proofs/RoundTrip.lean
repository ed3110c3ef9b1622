import Reckoner.Proofs.Grammar
import Reckoner.Proofs.Nesting

/-! Reading back what was written. The fully parenthesized form of a tree is a factor of the
grammar, and its parentheses nest as deep as the binary nodes of the tree (`Derives.of_form`). So a
tree within the limit is read as itself, and a deeper one is refused: a long flat sum can be read
but its written form cannot. -/
namespace Reckoner

namespace Expr

/-- A tree that some text stands for: no number is negative and every name is an identifier. -/
def Writable : Expr → Prop
  | number value _ => 0 ≤ value.toInt
  | symbol name _ => Text.IsIdentifier name.toList
  | binary _ _ left right _ => left.Writable ∧ right.Writable

/-- The largest number of binary nodes on a path from the root to a leaf. -/
def depth : Expr → Nat
  | number .. | symbol .. => 0
  | binary _ _ left right _ => max left.depth right.depth + 1

end Expr

theorem Derives.factor_chain {ts : List Token} {shape : Shape} {n : Nat}
    (h : Derives .factor ts shape n) (power : Power) : Derives (.chain power) ts shape n := by
  cases power with
  | additive => exact .ended (.first (.ended (.first h)))
  | multiplicative => exact .ended (.first h)

theorem Derives.join_factors {ls rs : List Token} {left right : Shape} {m n : Nat} {power : Power}
    {c : Char} {op : Operator} (first : Derives .factor ls left m) (joins : Joins power c op)
    (second : Derives .factor rs right n) :
    Derives (.chain .additive) (ls ++ .mark c :: rs) (.binary op left right) (max m n) := by
  cases power with
  | additive =>
    exact .ended (.again (.first (first.factor_chain _)) joins (second.factor_chain _))
  | multiplicative => exact .ended (.first (.ended (.again (.first first) joins second)))

theorem Word.text_of_nonneg {value : Int64} (h : 0 ≤ value.toInt) :
    ∃ n : Nat, value.toInt = n ∧ (Word.text value).toList = Nat.toDigits 10 n := by
  obtain ⟨n, same⟩ := Int.eq_ofNat_of_zero_le h
  refine ⟨n, same, ?_⟩
  rw [Word.text, same]
  exact String.toList_ofList

theorem Derives.of_number {value : Int64} (h : 0 ≤ value.toInt) :
    Derives .factor (Text.tokens (Word.text value).toList) (.number value) 0 := by
  obtain ⟨n, same, written⟩ := Word.text_of_nonneg h
  have small : Nat.ofDigitChars 10 (Nat.toDigits 10 n) 0 ≤ 2 ^ 63 - 1 := by
    have bound := value.toInt_lt
    rw [Nat.ofDigitChars_ten_toDigits]
    omega
  have derived := Derives.literal small
  rw [Nat.ofDigitChars_ten_toDigits, ← same, Int64.ofInt_toInt] at derived
  rw [written, Text.tokens_digits Nat.toDigits_ne_nil
    fun c member => Nat.isDigit_of_mem_toDigits (by decide) (by decide) member]
  exact derived

theorem tokens_form_binary (op : Operator) (position : Nat) (left right : Expr) (span : Span) :
    Text.tokens (Expr.binary op position left right span).form.toList =
      .mark '(' :: (Text.tokens left.form.toList ++ .mark op.symbol :: Text.tokens right.form.toList)
        ++ [.mark ')'] := by
  have visible : Text.isBlank op.symbol = false := by cases op <;> decide
  have other : Text.isLetter op.symbol = false := by cases op <;> decide
  have plain : op.symbol.isDigit = false := by cases op <;> decide
  rw [Expr.toList_form_binary, Text.tokens_mark (by decide) (by decide) (by decide),
    Text.tokens_append (by decide) (by decide), Text.tokens_blank (by decide),
    Text.tokens_mark visible other plain, Text.tokens_blank (by decide),
    Text.tokens_append (by decide) (by decide),
    Text.tokens_mark (by decide) (by decide) (by decide), Text.tokens_nil]
  simp

theorem Derives.of_form {e : Expr} (writable : e.Writable) :
    Derives .factor (Text.tokens e.form.toList) e.shape e.depth := by
  induction e with
  | number value span => exact .of_number writable
  | symbol name span =>
    have derived := Derives.word name.toList
    rw [String.ofList_toList] at derived
    rw [Expr.form, Text.tokens_identifier writable]
    exact derived
  | binary op position left right span ihl ihr =>
    rw [tokens_form_binary]
    exact .group ((ihl writable.1).join_factors (.ofOperator op) (ihr writable.2))

/-- Whatever its source is, a parse gives only trees that can be written. -/
theorem Descent.writable {σ : Type} [Source σ] {part : Part} {room : Nat} {s rest : Scanner σ}
    {result : Except Diagnostic Expr} (h : Descent part room s result rest) {e : Expr}
    (ok : result = .ok e) : e.Writable := by
  induction h generalizing e with
  | @symbol room s c present letter =>
    obtain rfl := Except.ok.inj ok
    refine ⟨c, s.upcoming.tail.takeWhile Text.isLetterOrNumeric, ?_, letter, ?_⟩
    · rw [Scanner.identifier_fst, present]
      exact String.toList_ofList
    · intro d member
      exact List.mem_takeWhile_imp member
  | @number room s rest c value present other digit fits =>
    obtain rfl := Except.ok.inj ok
    obtain ⟨small, rfl⟩ := Scanner.of_integer_ok fits
    rw [Expr.Writable, Int64.toInt_ofInt_of_le (by omega) (by omega)]
    exact Int.natCast_nonneg _
  | tooLarge | noFactor | tooDeep | unclosed | groupFails | firstFails | againFails =>
    contradiction
  | group _ _ _ ih | first _ ih | ended _ _ ih => exact ih ok
  | again _ _ _ _ ihs iho =>
    obtain rfl := Except.ok.inj ok
    exact ⟨ihs rfl, iho rfl⟩

theorem Derives.of_display {e : Expr} (writable : e.Writable) :
    Derives (.chain .additive) (Text.tokens e.display.toList) e.shape e.depth := by
  rw [Expr.display_eq_form]
  exact (Derives.of_form writable).factor_chain .additive

theorem parseText_display_tooDeep {e : Expr} (writable : e.Writable) (deep : 256 < e.depth) :
    ∃ place, Text.FirstBeyond 256 e.display.toList place ∧
      Parser.parseText e.display = .error ⟨.nestingTooDeep 256, place⟩ := by
  have met := (Scanner.tokens_ofText e.display).trans (List.append_nil _).symm
  obtain ⟨diagnostic, rest, fault, descent⟩ :=
    (Derives.of_display writable).tooDeep deep (Scanner.settled_ofText _) met
  exact parseText_of_tooDeep descent fault

/-- Reading undoes writing up to the places of the nodes, for trees of depth at most 256; deeper
ones are refused at the first parenthesis that is opened inside 256 others. Every tree that is
read can be written. -/
theorem parseText_display :
    (∀ e : Expr, e.Writable →
      (e.depth ≤ 256 → ∃ f, Parser.parseText e.display = .ok f ∧ f.shape = e.shape) ∧
      (256 < e.depth → ∃ place, Text.FirstBeyond 256 e.display.toList place ∧
        Parser.parseText e.display = .error ⟨.nestingTooDeep 256, place⟩)) ∧
    ∀ text e, Parser.parseText text = .ok e → e.Writable := by
  refine ⟨fun e writable => ⟨?_, ?_⟩, ?_⟩
  · exact (Derives.of_display writable).parseText
  · exact parseText_display_tooDeep writable
  · intro text e read
    obtain ⟨rest, descent, _⟩ := Parser.parseComplete_ok_iff.mp read
    exact descent.writable rfl

def Expr.ones : Nat → Expr
  | 0 => .number 1 ⟨0, 0⟩
  | n + 1 => .binary .plus 0 (ones n) (.number 1 ⟨0, 0⟩) ⟨0, 0⟩

theorem Expr.writable_ones (n : Nat) : (Expr.ones n).Writable := by
  have one : 0 ≤ (1 : Int64).toInt := by decide
  induction n with
  | zero => exact one
  | succ n ih => exact ⟨ih, one⟩

theorem Expr.depth_ones (n : Nat) : (Expr.ones n).depth = n := by
  induction n with
  | zero => rfl
  | succ n ih => simp [ones, depth, ih]

/-- One more summand makes the difference. -/
theorem parseText_display_ones :
    (∃ f, Parser.parseText (Expr.ones 256).display = .ok f ∧ f.shape = (Expr.ones 256).shape ∧
      f.Writable) ∧
    ∃ place, Text.FirstBeyond 256 (Expr.ones 257).display.toList place ∧
      Parser.parseText (Expr.ones 257).display = .error ⟨.nestingTooDeep 256, place⟩ := by
  obtain ⟨written, readable⟩ := parseText_display
  obtain ⟨f, read, same⟩ :=
    (written (.ones 256) (Expr.writable_ones 256)).1 (by rw [Expr.depth_ones])
  have refused := (written (.ones 257) (Expr.writable_ones 257)).2 (by rw [Expr.depth_ones]; decide)
  exact ⟨⟨f, read, same, readable _ _ read⟩, refused⟩

end Reckoner
