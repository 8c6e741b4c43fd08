import FlowTyping.Assignment
import FlowTyping.Bits
import FlowTyping.Cast
import FlowTyping.Closure
import FlowTyping.CommandLine.Arguments
import FlowTyping.CommandLine.Files
import FlowTyping.CommandLine.Run
import FlowTyping.Config
import FlowTyping.Constraint
import FlowTyping.Constraint.Reader
import FlowTyping.Constraint.Split
import FlowTyping.ConstraintSet
import FlowTyping.ConstraintSet.Algebra
import FlowTyping.ConstraintSet.Checked
import FlowTyping.Decimal
import FlowTyping.Decimal.Shortest
import FlowTyping.Decimal.Shown
import FlowTyping.Diagnosis
import FlowTyping.Document
import FlowTyping.Document.Moment
import FlowTyping.Document.Json.Marked
import FlowTyping.Document.Json.Reader
import FlowTyping.Document.Json.Writer
import FlowTyping.Domain
import FlowTyping.Domain.Error
import FlowTyping.Domain.Hasse
import FlowTyping.Domain.Laws
import FlowTyping.Domain.Powerset
import FlowTyping.Domain.Table
import FlowTyping.Domain.TwoPoint
import FlowTyping.Error
import FlowTyping.Fault
import FlowTyping.FlowGraph
import FlowTyping.KeyOrder
import FlowTyping.Level
import FlowTyping.LevelLattice
import FlowTyping.Main
import FlowTyping.Namespace
import FlowTyping.Operand
import FlowTyping.ParseError
import FlowTyping.Reachability
import FlowTyping.Semantics
import FlowTyping.Semantics.Search
import FlowTyping.Signature
import FlowTyping.Signature.Guarded
import FlowTyping.Signature.Reader
import FlowTyping.Signature.Registry
import FlowTyping.Signature.Shared
import FlowTyping.Signature.Stored
import FlowTyping.Signature.Symbol
import FlowTyping.Solver
import FlowTyping.Solver.Guarded
import FlowTyping.SortedSet
import FlowTyping.Table
import FlowTyping.Text.Blank
import FlowTyping.Text.Case
import FlowTyping.Text.CaseTable
import FlowTyping.Text.CodePoint
import FlowTyping.Text.Digit
import FlowTyping.Text.Integer
import FlowTyping.Text.Printable
import FlowTyping.Text.Quoted
import FlowTyping.Text.Range
import FlowTyping.Text.Split
import FlowTyping.UnitFile
import FlowTyping.Variable
import FlowTyping.Proofs.LatticeBounds
import FlowTyping.Proofs.Reachability
import FlowTyping.Proofs.FlowRelation
import FlowTyping.Proofs.Admission
import FlowTyping.Proofs.BuiltDomain
import FlowTyping.Proofs.CallSite
import FlowTyping.Proofs.CrossCheck
import FlowTyping.Proofs.Implication
import FlowTyping.Proofs.LeastModel
import FlowTyping.Proofs.Minimization
import FlowTyping.Proofs.Consequences
import FlowTyping.Proofs.IdleConsequences
import FlowTyping.Proofs.IdleMinimization
import FlowTyping.Proofs.CanonicalProjection
import FlowTyping.Proofs.Irredundance
import FlowTyping.Proofs.Refinement
import FlowTyping.Proofs.Subsumption
import FlowTyping.Proofs.Completion
import FlowTyping.Proofs.EqualSignatures
import FlowTyping.Proofs.WrittenLevels
import FlowTyping.Proofs.StoredSignatures
import FlowTyping.Proofs.ConditionalSolving
import FlowTyping.Proofs.ConflictDiagnosis
import FlowTyping.Proofs.SupplyOrder
import FlowTyping.Proofs.CoverClosure
import FlowTyping.Proofs.AcceptedDiagrams
import FlowTyping.Proofs.LatticeLaws
import FlowTyping.Proofs.ConstraintCut
import FlowTyping.Proofs.WritableLevels
import FlowTyping.Proofs.ConstraintGrammar
import FlowTyping.Proofs.SymbolRoundTrip
import FlowTyping.Proofs.LatticePresentation
import FlowTyping.Proofs.IssuedVariables
import FlowTyping.Proofs.ReadingTrails
import FlowTyping.Proofs.NamespaceRuns
import FlowTyping.Proofs.PowersetCarrier
import FlowTyping.Proofs.WalkingLoops
import FlowTyping.Proofs.ReachabilityTables
import FlowTyping.Proofs.SharedRegistry
import FlowTyping.Proofs.MisshapenDocuments
import FlowTyping.Proofs.ReadUnits
import FlowTyping.Proofs.ExitCodes
