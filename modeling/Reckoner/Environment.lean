import Std.Data.ExtTreeMap

/-! The values of names. A name that was never bound has the value 0. -/
namespace Reckoner

/-- A finite map; two environments with the same bindings are equal. -/
structure Environment where
  bindings : Std.ExtTreeMap String Int64
  deriving DecidableEq

namespace Environment

def empty : Environment := ⟨∅⟩

/-- Binds a name, in place of any earlier binding. -/
def bind (env : Environment) (name : String) (value : Int64) : Environment :=
  ⟨env.bindings.insert name value⟩

def get? (env : Environment) (name : String) : Option Int64 := env.bindings[name]?

def lookup (env : Environment) (name : String) : Int64 := (env.get? name).getD 0

def size (env : Environment) : Nat := env.bindings.size

def isEmpty (env : Environment) : Bool := env.bindings.isEmpty

/-- Binds pairs in order, so the last of equal names wins. -/
def ofList (pairs : List (String × Int64)) : Environment :=
  pairs.foldl (fun env pair => env.bind pair.1 pair.2) empty

theorem get?_bind (env : Environment) (name other : String) (value : Int64) :
    (env.bind name value).get? other = if name = other then some value else env.get? other := by
  simp [bind, get?, Std.ExtTreeMap.getElem?_insert, Std.LawfulEqCmp.compare_eq_iff_eq]

@[simp] theorem get?_empty (name : String) : empty.get? name = none := by
  simp [empty, get?]

@[ext] theorem ext {a b : Environment} (h : ∀ name, a.get? name = b.get? name) : a = b := by
  cases a; cases b
  exact congrArg mk (Std.ExtTreeMap.ext_getElem? h)

end Environment

end Reckoner
