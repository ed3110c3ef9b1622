import Reckoner.Evaluation.Basic
import Reckoner.Parser

/-! A calculation from a source of characters to a value, and the events on the way. -/
namespace Reckoner

variable {σ : Type} [Source σ]

/-- The events of reading one complete expression from a source and of evaluating it, if it could
be read, in the order in which they happen. -/
def eventsOf (source : σ) [Source.Ends source] (env : Environment) : List Event :=
  match Parser.parseComplete (Scanner.ofSource source) with
  | (.ok e, rest) => ((e.evaluate env).2 ++ rest.trace).reverse
  | (.error _, rest) => rest.trace.reverse

end Reckoner
