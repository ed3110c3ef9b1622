import Reckoner.CommandLine.Binding
import Reckoner.Diagnostic.Render
import Reckoner.Evaluation.Basic
import Reckoner.Parser
import Reckoner.Source.Stream

/-! What the program prints and how it ends.

An expression from the command line is kept, so that a diagnostic can be drawn against it; one
that is read from the input stream is not, and only its position is told. A diagnostic that cannot
be drawn ends the program after what it has printed so far. -/
namespace Reckoner.CommandLine

structure Request where
  expression : Option String
  bindings : List Binding
  deriving DecidableEq, Repr

inductive Ending where
  | exited (code : Nat)
  | crashed (cause : Overwide)
  deriving DecidableEq, Repr

structure Report where
  ending : Ending
  stdout : String
  stderr : String
  deriving DecidableEq, Repr

def sample : String := "  (abc+5) * (r2d2 * 3 + abc) \n"

/-- The values of the sample's names when no bindings are given either. -/
def sampleBindings : Environment := (Environment.empty.bind "abc" 1).bind "r2d2" 2

/-- The report of a diagnostic after some output; `text` is the expression, if it is kept. -/
def complain (stdout : String) (diagnostic : Diagnostic) (text : Option String) : Report :=
  match text with
  | some text =>
    match diagnostic.told.render text with
    | .ok drawing => ⟨.exited 1, stdout, drawing ++ "\n"⟩
    | .error cause => ⟨.crashed cause, stdout, ""⟩
  | none => ⟨.exited 1, stdout, diagnostic.told.summary ++ "\n"⟩

def run {σ : Type} [Source σ] (scanner : Scanner σ) (env : Environment) (text : Option String) :
    Report :=
  match Parser.parse scanner with
  | (.error diagnostic, _) => complain "" diagnostic text
  | (.ok e, rest) =>
    if rest.atEnd then
      let found := "Found " ++ e.display ++ "\n"
      match e.eval env with
      | .ok value => ⟨.exited 0, found ++ "Value = " ++ Word.text value ++ "\n", ""⟩
      | .error diagnostic => complain found diagnostic text
    else ⟨.exited 1, "unscanned input after parsing " ++ e.display ++ "\n", ""⟩

def environmentOf (bindings : List Binding) : Environment :=
  Environment.ofList (bindings.map fun binding => (binding.name, binding.value))

/-- The expression `-` stands for the input stream. -/
def Request.readsInput (request : Request) : Bool := request.expression = some "-"

def perform (request : Request) (input : Stream) : Report :=
  let env := environmentOf request.bindings
  match request.expression with
  | some text =>
    if request.readsInput then run (Scanner.ofSource input) env none
    else run (Scanner.ofText text) env (some text)
  | none =>
    let env := if env.isEmpty then sampleBindings else env
    run (Scanner.ofText sample) env (some sample)

end Reckoner.CommandLine
