import Reckoner.CommandLine.Report
import Reckoner.Shell.Plain

/-! The arguments of the program: at most one expression, any number of bindings, and asking for
the version or for help. This is the usual reading of options, with the answers that go with it; it
surrounds the program and is no part of it, and no statement about the program rests on it.

Arguments are read from left to right. A binding that is attached to its option (`-bV`, `-b=V`,
`--bind=V`) is checked at once; one that is an argument of its own waits, and is checked when the
next option or expression comes or the arguments end. After `--` every argument is an expression. -/
namespace Reckoner.Shell

open CommandLine (Binding Misbinding Request Report)
open Text.Pattern (Engine)

inductive Misuse where
  | rejectedBinding (value : String) (reason : Misbinding)
  | missingBinding
  | unknownOption (argument : String)
  | unexpectedValue (argument : String)
  | surplusArgument (argument : String)
  deriving DecidableEq, Repr

namespace Misuse

def explanation : Misuse → String
  | rejectedBinding value reason =>
    "invalid value '" ++ styled "33" value ++ "' for '" ++ styled "1" "--bind <NAME=VALUE>" ++
      "': " ++ reason.message
  | missingBinding =>
    "a value is required for '" ++ styled "1" "--bind <NAME=VALUE>" ++
      "' but none was supplied"
  | unknownOption argument => "unexpected argument '" ++ styled "33" argument ++ "' found"
  | unexpectedValue argument => "unexpected value in '" ++ styled "33" argument ++ "'"
  | surplusArgument argument => "unexpected argument '" ++ styled "33" argument ++ "' found"

/-- The message is made for a terminal and written as plain text, so control sequences in an
argument do not reach the output. -/
def message (misuse : Misuse) : String :=
  plain (styled "1;31" "error:" ++ " " ++ misuse.explanation)

end Misuse

/-- Why there is no request: the arguments are answered at once. -/
inductive Reply where
  | version
  | help
  | misuse (cause : Misuse)
  deriving DecidableEq, Repr

inductive Pending where
  | nothing
  | awaited
  | given (value : String)
  deriving DecidableEq, Repr

structure Reader where
  onlyExpressions : Bool
  expression : Option String
  /-- The bindings so far, latest first. -/
  bindings : List Binding
  pending : Pending
  deriving DecidableEq, Repr

/-- The kinds of argument. An option has its name and the value attached to it, if any. -/
inductive Argument where
  | divider
  | long (name : List Char) (value : Option (List Char))
  | short (letters : List Char)
  | plain
  deriving DecidableEq, Repr

namespace Argument

/-- A lone hyphen is no option. -/
def classify : List Char → Argument
  | ['-', '-'] => divider
  | '-' :: '-' :: name =>
    long (name.takeWhile (· ≠ '=')) ((name.dropWhile (· ≠ '=')).tail?)
  | '-' :: letter :: letters => short (letter :: letters)
  | _ => plain

end Argument

namespace Reader

def start : Reader := ⟨false, none, [], .nothing⟩

variable (captures : Engine)

def bind (r : Reader) (value : String) : Except Reply Reader :=
  match Binding.parse captures value with
  | .ok binding => .ok { r with bindings := binding :: r.bindings, pending := .nothing }
  | .error reason => .error (.misuse (.rejectedBinding value reason))

/-- Checks the binding that waits, if one does. -/
def settle (r : Reader) : Except Reply Reader :=
  match r.pending with
  | .nothing => .ok r
  | .awaited => .error (.misuse .missingBinding)
  | .given value => r.bind captures value

def express (r : Reader) (argument : String) : Except Reply Reader :=
  match r.expression with
  | some _ => .error (.misuse (.surplusArgument argument))
  | none => do
    let r ← r.settle captures
    return { r with expression := some argument }

def bindOption (r : Reader) (value : Option (List Char)) : Except Reply Reader := do
  let r ← r.settle captures
  match value with
  | some value => r.bind captures (String.ofList value)
  | none => return { r with pending := .awaited }

def attached : List Char → Option (List Char)
  | [] => none
  | '=' :: value => some value
  | value => some value

def answer (r : Reader) (reply : Reply) : Except Reply Request := do
  let _ ← r.settle captures
  throw reply

def read (r : Reader) : List String → Except Reply Request
  | [] => do
    let r ← r.settle captures
    return ⟨r.expression, r.bindings.reverse⟩
  | argument :: rest =>
    if r.onlyExpressions then do read (← r.express captures argument) rest
    else
      match Argument.classify argument.toList with
      | .divider => read { r with onlyExpressions := true } rest
      | .long ['b', 'i', 'n', 'd'] value => do read (← r.bindOption captures value) rest
      | .long ['v', 'e', 'r', 's', 'i', 'o', 'n'] none => r.answer captures .version
      | .long ['h', 'e', 'l', 'p'] none => r.answer captures .help
      | .long ['v', 'e', 'r', 's', 'i', 'o', 'n'] (some _)
      | .long ['h', 'e', 'l', 'p'] (some _) => .error (.misuse (.unexpectedValue argument))
      | .long _ _ => .error (.misuse (.unknownOption argument))
      | .short ('b' :: value) => do read (← r.bindOption captures (attached value)) rest
      | .short ('V' :: _) => r.answer captures .version
      | .short ('h' :: _) => r.answer captures .help
      | .short _ => .error (.misuse (.unknownOption argument))
      | .plain =>
        if r.pending = .awaited then read { r with pending := .given argument } rest
        else do read (← r.express captures argument) rest

end Reader

def read (captures : Engine) (arguments : List String) : Except Reply Request :=
  Reader.start.read captures arguments

def usage : String :=
  "Parse an integer expression and evaluate it against variable bindings\n\n" ++
  "Usage: rdcalc [OPTIONS] [EXPRESSION]\n\n" ++
  "Arguments:\n" ++
  "  [EXPRESSION]  Expression to evaluate, or `-` to read it from stdin. Defaults to a sample " ++
  "expression over `abc` and `r2d2`\n\n" ++
  "Options:\n" ++
  "  -b, --bind <NAME=VALUE>  Bind a variable, e.g. `--bind abc=1`. May be repeated\n" ++
  "  -h, --help               Print help\n" ++
  "  -V, --version            Print version\n"

def Reply.report : Reply → Report
  | version => ⟨.exited 0, "rdcalc 0.1.0\n", ""⟩
  | help => ⟨.exited 0, usage, ""⟩
  | misuse cause => ⟨.exited 2, "", cause.message ++ "\n"⟩

end Reckoner.Shell
