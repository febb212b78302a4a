import TermSpace.Branch.Json
import TermSpace.Inspection
import TermSpace.Proofs.Branch.Collapsing
import TermSpace.Proofs.Branch.ListMonad
import TermSpace.Proofs.Classifier.History
import TermSpace.Proofs.Expansion.DepthBound
import TermSpace.Proofs.Expansion.Siblings
import TermSpace.Proofs.Grounded.Arithmetic
import TermSpace.Proofs.Inference.Checking
import TermSpace.Proofs.Inference.Conservative
import TermSpace.Proofs.Inference.Supplies
import TermSpace.Proofs.Matching.OneWay
import TermSpace.Proofs.Reader.ProgramText
import TermSpace.Proofs.Reader.SurfaceText
import TermSpace.Proofs.Reader.Unbalanced
import TermSpace.Proofs.Reasoner.Exchange
import TermSpace.Proofs.Reduction.Alternatives
import TermSpace.Proofs.Reduction.Closed
import TermSpace.Proofs.Reduction.Instantiation
import TermSpace.Proofs.Reduction.Priority
import TermSpace.Proofs.Session.Redeclaration
import TermSpace.Proofs.Space.Queries
import TermSpace.Proofs.Term.Variables
import TermSpace.Proofs.Ty.BoundVariables
import TermSpace.Proofs.Ty.FreeVariables
import TermSpace.Proofs.Ty.Generalization
import TermSpace.Proofs.Ty.LexicalScope
import TermSpace.Proofs.Ty.QuantifiedUnification
import TermSpace.Proofs.Ty.RoundTrip
import TermSpace.Reasoner
import TermSpace.Session
import TermSpace.Term.Json
import TermSpace.Term.Order
import TermSpace.Ty.Json
import TermSpace.Proofs.Term.Variables
