import Reckoner.Expr.Basic

/-! A tree as the list of its nodes, operands before the node that joins them.

Trees can be as deep as the input is long, so the list is made with a stack of pending trees
(`nodes`) and agrees with the recursive definition (`nodes_eq_postorder`). Reading the list as a
program for a stack of trees builds the tree again (`assemble_postorder`); the list therefore
determines the tree, and trees are compared by their lists. -/
namespace Reckoner

/-- A node without its operands. -/
inductive Node where
  | number (value : Int64) (span : Span)
  | symbol (name : String) (span : Span)
  | binary (operator : Operator) (position : Nat) (span : Span)
  deriving DecidableEq, Repr

def Node.told : Node → Node
  | number value span => number value span.told
  | symbol name span => symbol name span.told
  | binary operator position span => binary operator (Position.told position) span.told

namespace Expr

def postorder : Expr → List Node
  | number value span => [.number value span]
  | symbol name span => [.symbol name span]
  | binary operator position left right span =>
    left.postorder ++ right.postorder ++ [.binary operator position span]

/-- Puts the nodes of pending trees, the last tree first, before those already listed. -/
def gather : List Expr → List Node → List Node
  | [], listed => listed
  | number value span :: pending, listed => gather pending (.number value span :: listed)
  | symbol name span :: pending, listed => gather pending (.symbol name span :: listed)
  | binary operator position left right span :: pending, listed =>
    gather (right :: left :: pending) (.binary operator position span :: listed)
termination_by pending => sizes pending
decreasing_by all_goals simp only [sizes, size]; omega

def nodes (e : Expr) : List Node := gather [e] []

theorem gather_cons (e : Expr) (pending : List Expr) (listed : List Node) :
    gather (e :: pending) listed = gather pending (e.postorder ++ listed) := by
  induction e generalizing pending listed with
  | number | symbol => rw [gather]; rfl
  | binary operator position left right span ihl ihr => rw [gather, ihr, ihl]; simp [postorder]

@[simp] theorem nodes_eq_postorder (e : Expr) : e.nodes = e.postorder := by
  rw [nodes, gather_cons, gather, List.append_nil]

end Expr

/-- A step of a program that builds trees on a stack. `join` gives the new node the span of its
operands. -/
inductive Assembly where
  | node (node : Node)
  | join (operator : Operator) (position : Nat)
  deriving DecidableEq, Repr

namespace Assembly

/-- A step that lacks an operand has no result. The top of the stack is the right operand. -/
def step : Assembly → List Expr → Option (List Expr)
  | node (.number value span), stack => some (.number value span :: stack)
  | node (.symbol name span), stack => some (.symbol name span :: stack)
  | node (.binary operator position span), right :: left :: stack =>
    some (.binary operator position left right span :: stack)
  | join operator position, right :: left :: stack =>
    some (left.join operator position right :: stack)
  | _, _ => none

def run : List Assembly → List Expr → Option (List Expr)
  | [], stack => some stack
  | instruction :: program, stack =>
    match instruction.step stack with
    | some stack => run program stack
    | none => none

def tree? (program : List Assembly) : Option Expr :=
  match run program [] with
  | some [e] => some e
  | _ => none

theorem run_postorder (e : Expr) (program : List Assembly) (stack : List Expr) :
    run (e.postorder.map node ++ program) stack = run program (e :: stack) := by
  induction e generalizing program stack with
  | number | symbol => simp [Expr.postorder, run, step]
  | binary operator position left right span ihl ihr =>
    simp [Expr.postorder, ihl, ihr, run, step]

theorem assemble_postorder (e : Expr) : tree? (e.postorder.map node) = some e := by
  have := run_postorder e [] []
  rw [List.append_nil] at this
  simp [tree?, this, run]

end Assembly

namespace Expr

theorem postorder_injective {a b : Expr} (h : a.postorder = b.postorder) : a = b := by
  have := Assembly.assemble_postorder a
  rw [h, Assembly.assemble_postorder b] at this
  exact (Option.some.inj this).symm

/-- Equality of trees, with every span and position, without descending into them. -/
instance : DecidableEq Expr := fun a b =>
  decidable_of_iff (a.nodes = b.nodes)
    ⟨fun h => postorder_injective (by simpa using h), fun h => h ▸ rfl⟩

end Expr

end Reckoner
