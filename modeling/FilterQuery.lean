import FilterQuery.CommandLine
import FilterQuery.Main
import FilterQuery.Proofs.Answers
import FilterQuery.Proofs.Boundaries
import FilterQuery.Proofs.Composition
import FilterQuery.Proofs.Convergence
import FilterQuery.Proofs.Counts
import FilterQuery.Proofs.Declarations
import FilterQuery.Proofs.Documents
import FilterQuery.Proofs.FreeText
import FilterQuery.Proofs.Grammar
import FilterQuery.Proofs.Instructions
import FilterQuery.Proofs.Isolation
import FilterQuery.Proofs.Labels
import FilterQuery.Proofs.Normalization
import FilterQuery.Proofs.OpenQuotes
import FilterQuery.Proofs.Options
import FilterQuery.Proofs.Orderly
import FilterQuery.Proofs.Pieces
import FilterQuery.Proofs.Positions
import FilterQuery.Proofs.Precedence
import FilterQuery.Proofs.Protection
import FilterQuery.Proofs.Quotation
import FilterQuery.Proofs.Reconciliation
import FilterQuery.Proofs.Rejection
import FilterQuery.Proofs.Repetition
import FilterQuery.Proofs.RoundTrip
import FilterQuery.Proofs.RuleOrder
import FilterQuery.Proofs.Runs
import FilterQuery.Proofs.Segments
import FilterQuery.Proofs.Signatures
import FilterQuery.Proofs.Survival
import FilterQuery.Rule.Custom
import FilterQuery.Session
