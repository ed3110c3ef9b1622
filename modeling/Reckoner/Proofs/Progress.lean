import Reckoner.Proofs.Course
import Reckoner.Proofs.Tokens

/-! Reading gets ahead. The descent calls itself without taking anything, from sums to products to
factors, and its loops call it again; but no part is read without taking a character that is not
blank (`Descent.consumes`), and no round of a loop without taking an operator and such a character
after it (`Parser.round_of_operand`). -/
namespace Reckoner

variable {σ : Type} [Source σ]

def Text.visibleCount (cs : List Char) : Nat := cs.countP fun c => !Text.isBlank c

namespace Scanner

/-- From one scanner to another, so many characters that are not blank were taken. -/
def Consumes (count : Nat) (s rest : Scanner σ) : Prop :=
  ∃ taken, s.upcoming = taken ++ rest.upcoming ∧ rest.position = s.position + taken.length ∧
    count ≤ Text.visibleCount taken

namespace Consumes

variable {s t u : Scanner σ} {count more : Nat}

theorem refl (s : Scanner σ) : s.Consumes 0 s := ⟨[], rfl, rfl, Nat.zero_le _⟩

theorem trans (first : s.Consumes count t) (second : t.Consumes more u) :
    s.Consumes (count + more) u := by
  obtain ⟨taken, before, moved, least⟩ := first
  obtain ⟨later, after, further, most⟩ := second
  refine ⟨taken ++ later, by rw [before, after, List.append_assoc], ?_, ?_⟩
  · rw [further, moved, List.length_append, Nat.add_assoc]
  · rw [Text.visibleCount, List.countP_append]
    exact Nat.add_le_add least most

theorem mono (h : s.Consumes count t) (fewer : more ≤ count) : s.Consumes more t := by
  obtain ⟨taken, before, moved, least⟩ := h
  exact ⟨taken, before, moved, Nat.le_trans fewer least⟩

theorem record (h : s.Consumes count t) (event : Event) : s.Consumes count (t.record event) := h

theorem visibleCount_le (h : s.Consumes count t) :
    Text.visibleCount t.upcoming + count ≤ Text.visibleCount s.upcoming := by
  obtain ⟨taken, before, _, least⟩ := h
  unfold Text.visibleCount at least ⊢
  rw [before, List.countP_append]
  omega

theorem advance {c : Char} (present : s.lookahead = some c) :
    s.Consumes (Text.visibleCount [c]) s.advance := by
  refine ⟨[c], ?_, ?_, Nat.le_refl _⟩
  · rw [upcoming_advance]
    exact upcoming_of_some present
  · exact position_advance present

end Consumes

theorem Onward.consumes {s t : Scanner σ} (h : s.Onward t) : s.Consumes 0 t := by
  refine h.keeps (P := s.Consumes 0) ?_ (fun u event before => before.record event) (.refl s)
  intro u before
  cases present : u.lookahead with
  | none => rwa [advance_of_none present]
  | some c => exact (before.trans (.advance present)).mono (Nat.zero_le _)

variable {s : Scanner σ} {c : Char}

theorem Onward.consumes_one {rest : Scanner σ} (h : s.advance.Onward rest)
    (present : s.lookahead = some c) (visible : Text.isBlank c = false) : s.Consumes 1 rest := by
  have first : s.Consumes 1 s.advance :=
    (Consumes.advance present).mono (by simp [Text.visibleCount, visible])
  exact first.trans h.consumes

theorem onward_advance_identifier (s : Scanner σ) : s.advance.Onward s.identifier.2 :=
  ((Onward.takeFrom ..).trans (.skipBlanks _)).record _

theorem onward_advance_integer (present : s.lookahead = some c) (digit : c.isDigit = true) :
    s.advance.Onward s.integer.2 := by
  rw [integer_snd, takeWhile, takeFrom_of_some present, if_pos digit]
  exact ((Onward.takeFrom ..).trans (.skipBlanks _)).record _

theorem consumes_skip (present : s.lookahead = some c) (visible : Text.isBlank c = false) :
    s.Consumes 1 s.skip :=
  (Onward.skipBlanks s.advance).consumes_one present visible

theorem consumes_operator {op : Operator} (found : s.operator? = some op) : s.Consumes 1 s.skip :=
  consumes_skip (lookahead_of_operator? found) (by cases op <;> decide)

end Scanner

theorem Descent.consumes {part : Part} {room : Nat} {s rest : Scanner σ}
    {result : Except Diagnostic Expr} (h : Descent part room s result rest) {e : Expr}
    (ok : result = .ok e) : s.Consumes 1 rest := by
  induction h generalizing e with
  | @symbol room s c present letter =>
    exact (Scanner.onward_advance_identifier s).consumes_one present
      (Text.isBlank_of_isLetter letter)
  | @number room s rest c value present other digit fits =>
    have onward := Scanner.onward_advance_integer present digit
    rw [fits] at onward
    exact onward.consumes_one present (Text.isBlank_of_isDigit digit)
  | group present inner closed ih =>
    have opened := Scanner.consumes_skip present (by decide)
    exact ((opened.trans (ih rfl)).trans (Scanner.consumes_skip closed (by decide))).mono (by omega)
  | first _ ih | ended _ _ ih => exact ih ok
  | again spine found same operand ihs iho =>
    have operator := Scanner.consumes_operator found
    exact (((ihs rfl).trans operator).trans (iho rfl)).mono (by omega)
  | tooLarge | noFactor | tooDeep | unclosed | groupFails | firstFails | againFails => contradiction

namespace Parser

def Progresses (p : Parser σ Expr) : Prop :=
  ∀ s e rest, p.run s = (.ok e, rest) → s.Consumes 1 rest

theorem progresses_factor (room : Nat) : (factor room : Parser σ Expr).Progresses :=
  fun _ _ _ read => (run_factor_iff.mp read).consumes rfl

theorem progresses_ofPower (room : Nat) (power : Power) :
    (ofPower room power : Parser σ Expr).Progresses :=
  fun _ _ _ read => (run_chain_iff.mp read).consumes rfl

theorem progresses_ofOperand (room : Nat) (power : Power) :
    (ofOperand room power : Parser σ Expr).Progresses := by
  cases power with
  | additive => exact progresses_ofPower room .multiplicative
  | multiplicative => exact progresses_factor room

/-- One round of the loop of a chain: where it starts and where the next one does. -/
structure Round (power : Power) (operand : Parser σ Expr) (left : Expr) (s : Scanner σ)
    (next : Expr) (rest : Scanner σ) : Prop where
  goesOn : chainFrom power operand left s = chainFrom power operand next rest
  consumes : s.Consumes 2 rest

/-- A round takes the operator and at least one character of the operand. -/
theorem round_of_operand {power : Power} {operand : Parser σ Expr} (progresses : operand.Progresses)
    {s rest : Scanner σ} {op : Operator} {right : Expr} (found : s.operator? = some op)
    (same : op.power = power) (read : operand.run s.skip = (.ok right, rest)) (left : Expr) :
    Round power operand left s (left.join op s.position right)
      (rest.record (.reduced op s.position)) where
  goesOn := chainFrom_of_operator found same read
  consumes := ((Scanner.consumes_operator found).trans (progresses _ _ _ read)).record _

end Parser

end Reckoner
