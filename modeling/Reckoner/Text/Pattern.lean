/-! Patterns of characters, and what they capture.

A pattern is data: the two ends of a text, runs of characters from given intervals, groups, and one
pattern after another. Which pieces of a text it matches is a relation. Capturing is left to an
engine, of which only this is asked: it finds a match if there is one, and gives its groups
(`Lawful`). `captures` is such an engine. -/
namespace Reckoner.Text

/-- How many characters a run may have. -/
inductive Quantifier where
  | once
  | optional
  | any
  | some
  deriving DecidableEq, Repr

namespace Quantifier

def Allows : Quantifier → Nat → Prop
  | once, count => count = 1
  | optional, count => count ≤ 1
  | any, _ => True
  | some, count => 1 ≤ count

instance (quantifier : Quantifier) : DecidablePred quantifier.Allows := fun count =>
  match quantifier with
  | once => inferInstanceAs (Decidable (count = 1))
  | optional => inferInstanceAs (Decidable (count ≤ 1))
  | any => inferInstanceAs (Decidable True)
  | some => inferInstanceAs (Decidable (1 ≤ count))

def mark : Quantifier → String
  | once => ""
  | optional => "?"
  | any => "*"
  | some => "+"

end Quantifier

abbrev Intervals := List (Char × Char)

namespace Intervals

def Has (intervals : Intervals) (c : Char) : Prop := ∃ i ∈ intervals, i.1 ≤ c ∧ c ≤ i.2

instance (intervals : Intervals) : DecidablePred intervals.Has := fun c =>
  inferInstanceAs (Decidable (∃ i ∈ intervals, i.1 ≤ c ∧ c ≤ i.2))

def source : Intervals → String
  | [(first, last)] =>
    if first = last then String.singleton first else String.ofList ['[', first, '-', last, ']']
  | intervals => "[" ++ String.join (intervals.map fun i => String.ofList [i.1, '-', i.2]) ++ "]"

end Intervals

inductive Pattern where
  | start
  | stop
  | run (intervals : Intervals) (quantifier : Quantifier)
  | group (inner : Pattern)
  | seq (first second : Pattern)
  deriving DecidableEq, Repr

namespace Pattern

/-- A pattern as it is usually written. -/
def source : Pattern → String
  | start => "^"
  | stop => "$"
  | run intervals quantifier => intervals.source ++ quantifier.mark
  | group inner => "(" ++ inner.source ++ ")"
  | seq first second => first.source ++ second.source

/-- A pattern matches a piece of a text, between what comes before it and what comes after. The
last argument lists what its groups match, in the order in which they open. -/
inductive Matches : Pattern → List Char → List Char → List Char → List (List Char) → Prop where
  | start {after : List Char} : Matches .start [] [] after []
  | stop {before : List Char} : Matches .stop before [] [] []
  | run {intervals : Intervals} {quantifier : Quantifier} {before piece after : List Char}
      (all : ∀ c ∈ piece, intervals.Has c) (count : quantifier.Allows piece.length) :
      Matches (.run intervals quantifier) before piece after []
  | group {inner : Pattern} {before piece after : List Char} {groups : List (List Char)}
      (inside : Matches inner before piece after groups) :
      Matches (.group inner) before piece after (piece :: groups)
  | seq {first second : Pattern} {before front back after : List Char}
      {groups more : List (List Char)} (left : Matches first before front (back ++ after) groups)
      (right : Matches second (before ++ front) back after more) :
      Matches (.seq first second) before (front ++ back) after (groups ++ more)

/-- A way to capture: the piece of a text that a pattern matches, and then its groups. -/
abbrev Engine := Pattern → String → Option (List String)

/-- What an engine has to do. -/
structure Lawful (captures : Engine) : Prop where
  /-- What is captured is a match. -/
  sound {p : Pattern} {text : String} {found : List String} (h : captures p text = some found) :
    ∃ before piece after groups, text.toList = before ++ piece ++ after ∧
      p.Matches before piece after groups ∧ found = (piece :: groups).map String.ofList
  /-- Nothing is captured only where there is no match. -/
  complete {p : Pattern} {text : String} (h : captures p text = none)
    {before piece after : List Char} {groups : List (List Char)}
    (split : text.toList = before ++ piece ++ after) : ¬p.Matches before piece after groups

/-- All matches at the front of `rest`, with their groups, those with longer runs first. `begins`
tells whether nothing comes before. -/
def ways : Pattern → Bool → List Char → List (List Char × List (List Char))
  | start, begins, _ => if begins then [([], [])] else []
  | stop, _, rest => if rest.isEmpty then [([], [])] else []
  | run intervals quantifier, _, rest =>
    let longest := rest.takeWhile fun c => intervals.Has c
    let counts := (List.range (longest.length + 1)).reverse.filter fun n => quantifier.Allows n
    counts.map fun count => (longest.take count, [])
  | group inner, begins, rest =>
    (inner.ways begins rest).map fun way => (way.1, way.1 :: way.2)
  | seq first second, begins, rest =>
    (first.ways begins rest).flatMap fun way =>
      (second.ways (begins && way.1.isEmpty) (rest.drop way.1.length)).map fun next =>
        (way.1 ++ next.1, way.2 ++ next.2)

/-- All matches, from left to right. -/
def waysWithin (p : Pattern) (begins : Bool) : List Char → List (List Char × List (List Char))
  | [] => p.ways begins []
  | c :: cs => p.ways begins (c :: cs) ++ p.waysWithin false cs

/-- The first match. -/
def captures : Engine := fun p text =>
  (p.waysWithin true text.toList).head?.map fun way => (way.1 :: way.2).map String.ofList

end Pattern

end Reckoner.Text
