import Mathlib.Data.Finset.Card
import Reckoner.Environment

/-! An environment that pairs were bound in, one after another, is the finite map of the last pair of
each name. What was bound before under the same name leaves no trace: not in a value, not in the
number of names and not in whether two environments are equal (`ofList_last_wins`). -/
namespace Reckoner.Environment

/-- The value of the last pair with a name, if there is such a pair. -/
def lastValue? (pairs : List (String × Int64)) (name : String) : Option Int64 :=
  ((pairs.filter fun pair => pair.1 = name).getLast?).map Prod.snd

def names (pairs : List (String × Int64)) : Finset String := (pairs.map Prod.fst).toFinset

variable {env : Environment} {pairs : List (String × Int64)}

theorem lastValue?_append (front back : List (String × Int64)) (name : String) :
    lastValue? (front ++ back) name = (lastValue? back name).or (lastValue? front name) := by
  simp only [lastValue?, List.filter_append, List.getLast?_append, Option.map_or]

theorem lastValue?_concat (pairs : List (String × Int64)) (name other : String) (value : Int64) :
    lastValue? (pairs ++ [(name, value)]) other =
      if name = other then some value else lastValue? pairs other := by
  rw [lastValue?_append]
  by_cases same : name = other
  · simp [lastValue?, same]
  · simp [lastValue?, same]

theorem isSome_lastValue? (pairs : List (String × Int64)) (name : String) :
    (lastValue? pairs name).isSome = true ↔ name ∈ names pairs := by
  simp [lastValue?, names]

theorem names_concat (pairs : List (String × Int64)) (name : String) (value : Int64) :
    names (pairs ++ [(name, value)]) = insert name (names pairs) := by
  ext other
  simp [names]

theorem size_bind (env : Environment) (name : String) (value : Int64) :
    (env.bind name value).size = if (env.get? name).isSome then env.size else env.size + 1 := by
  simp [bind, size, get?, Std.ExtTreeMap.size_insert]

/-- The environment holds the last pair of each name, and nothing else. -/
structure Holds (env : Environment) (pairs : List (String × Int64)) : Prop where
  get? (name : String) : env.get? name = lastValue? pairs name
  size : env.size = (names pairs).card

theorem holds_empty : empty.Holds [] where
  get? := get?_empty
  size := Std.ExtTreeMap.size_empty

/-- One pair more. A name that is bound already keeps its place and changes its value. -/
theorem Holds.bind (holds : env.Holds pairs) (name : String) (value : Int64) :
    (env.bind name value).Holds (pairs ++ [(name, value)]) where
  get? := by
    intro other
    rw [get?_bind, lastValue?_concat, holds.get?]
  size := by
    rw [size_bind, names_concat, Finset.card_insert_eq_ite, holds.get?, holds.size]
    simp only [isSome_lastValue?]

theorem Holds.foldl (holds : env.Holds pairs) (more : List (String × Int64)) :
    (more.foldl (fun env pair => env.bind pair.1 pair.2) env).Holds (pairs ++ more) := by
  induction more generalizing env pairs with
  | nil => simpa using holds
  | cons pair more ih => simpa using ih (holds.bind pair.1 pair.2)

theorem holds_ofList (pairs : List (String × Int64)) : (ofList pairs).Holds pairs :=
  holds_empty.foldl pairs

theorem get?_ofList (pairs : List (String × Int64)) (name : String) :
    (ofList pairs).get? name = lastValue? pairs name := (holds_ofList pairs).get? name

theorem ofList_eq_of_lastValue? {others : List (String × Int64)}
    (same : ∀ name, lastValue? pairs name = lastValue? others name) :
    ofList pairs = ofList others := by
  ext1 name
  rw [get?_ofList, get?_ofList, same]

theorem isEmpty_ofList (pairs : List (String × Int64)) :
    (ofList pairs).isEmpty = true ↔ pairs = [] := by
  have counted : (ofList pairs).isEmpty = true ↔ (ofList pairs).size = 0 := by
    rw [isEmpty, Std.ExtTreeMap.isEmpty_iff, Std.ExtTreeMap.eq_empty_iff_size_eq_zero, size]
  rw [counted, (holds_ofList pairs).size, Finset.card_eq_zero]
  simp [names]

theorem lastValue?_of_overwritten (before after : List (String × Int64)) {pair : String × Int64}
    (again : pair.1 ∈ names after) (name : String) :
    lastValue? (before ++ pair :: after) name = lastValue? (before ++ after) name := by
  have split : before ++ pair :: after = (before ++ [pair]) ++ after := by simp
  rw [split, lastValue?_append _ after, lastValue?_concat, lastValue?_append before]
  by_cases same : pair.1 = name
  · have later := (isSome_lastValue? after name).mpr (same ▸ again)
    obtain ⟨value, found⟩ := Option.isSome_iff_exists.mp later
    rw [found, Option.some_or, Option.some_or]
  · rw [if_neg same]

/-- Pairs bound in turn make up the finite map of the last value of each name. A name without a pair
has no value and counts as 0, each name counts once, and environments are equal exactly if they give
every name the same value. So pairs of different names may change places, and a pair whose name
comes again later may be left out. -/
theorem ofList_last_wins (pairs : List (String × Int64)) :
    (∀ name, (ofList pairs).get? name = lastValue? pairs name) ∧
    (∀ name, lastValue? pairs name = none ↔ ∀ pair ∈ pairs, pair.1 ≠ name) ∧
    (∀ name, (ofList pairs).lookup name = (lastValue? pairs name).getD 0) ∧
    (ofList pairs).size = (names pairs).card ∧
    ((ofList pairs).isEmpty = true ↔ pairs = []) ∧
    (∀ others, (ofList pairs == ofList others) = true ↔
      ∀ name, (ofList pairs).get? name = (ofList others).get? name) ∧
    (∀ others, (∀ name, pairs.filter (fun pair => pair.1 = name) =
        others.filter fun pair => pair.1 = name) → ofList pairs = ofList others) ∧
    ∀ before pair after, pairs = before ++ pair :: after → pair.1 ∈ names after →
      ofList pairs = ofList (before ++ after) := by
  refine ⟨get?_ofList pairs, ?_, ?_, (holds_ofList pairs).size, isEmpty_ofList pairs, ?_, ?_, ?_⟩
  · intro name
    simp [lastValue?]
  · intro name
    rw [lookup, get?_ofList]
  · intro others
    rw [beq_iff_eq]
    exact ⟨fun same name => by rw [same], ext⟩
  · intro others same
    refine ofList_eq_of_lastValue? fun name => ?_
    rw [lastValue?, lastValue?, same]
  · rintro before pair after rfl again
    exact ofList_eq_of_lastValue? (lastValue?_of_overwritten before after again)

/-- The first value of `x` is left out and `y` goes before it. -/
theorem ofList_last_wins_twice :
    (ofList [("x", 1), ("y", -2), ("x", 3)]).get? "x" = some 3 ∧
    (ofList [("x", 1), ("y", -2), ("x", 3)]).size = 2 ∧
    ofList [("x", 1), ("y", -2), ("x", 3)] = ofList [("y", -2), ("x", 1), ("x", 3)] ∧
    ofList [("x", 1), ("y", -2), ("x", 3)] = ofList [("y", -2), ("x", 3)] := by
  obtain ⟨values, _, _, size, _, _, reordered, dropped⟩ :=
    ofList_last_wins [("x", 1), ("y", -2), ("x", 3)]
  refine ⟨(values "x").trans (by decide), size.trans (by decide), ?_, ?_⟩
  · refine reordered _ fun name => ?_
    by_cases x : "x" = name
    · subst x
      decide
    · by_cases y : "y" = name <;> simp [x, y]
  · exact dropped [] ("x", 1) [("y", -2), ("x", 3)] rfl (by decide)

end Reckoner.Environment
