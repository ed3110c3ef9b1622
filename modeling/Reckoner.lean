import Reckoner.Expr.Postorder
import Reckoner.Operation
import Reckoner.Calculation
import Reckoner.Main
import Reckoner.Proofs.Grammar
import Reckoner.Proofs.ExactValue
import Reckoner.Proofs.Nesting
import Reckoner.Proofs.RoundTrip
import Reckoner.Proofs.Simulation
import Reckoner.Proofs.Course
import Reckoner.Proofs.Lexemes
import Reckoner.Proofs.Layout
import Reckoner.Proofs.Precedence
import Reckoner.Proofs.Lockstep
import Reckoner.Proofs.Spacing
import Reckoner.Proofs.Failure
import Reckoner.Proofs.Balance
import Reckoner.Proofs.Unread
import Reckoner.Proofs.Viability
import Reckoner.Proofs.Trace
import Reckoner.Proofs.Decoding
import Reckoner.Proofs.Strictness
import Reckoner.Proofs.Deliveries
import Reckoner.Proofs.Places
import Reckoner.Proofs.Drawing
import Reckoner.Proofs.Program
import Reckoner.Proofs.Stopping
import Reckoner.Proofs.Tandem
import Reckoner.Proofs.Translation
import Reckoner.Proofs.Foresight
import Reckoner.Proofs.Readability
import Reckoner.Proofs.Dependence
import Reckoner.Proofs.Literals
import Reckoner.Proofs.LastBinding
import Reckoner.Proofs.BindingForm
import Reckoner.Proofs.Discipline
import Reckoner.Proofs.Effort
