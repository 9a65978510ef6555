import ConversionSynthesis.CommandLine.Session
import ConversionSynthesis.Delivery.Store
import ConversionSynthesis.Main
import ConversionSynthesis.Proofs.Candidate.FirstWins
import ConversionSynthesis.Proofs.Candidate.Emission
import ConversionSynthesis.Proofs.Signature.OperandType
import ConversionSynthesis.Proofs.Report.Agreement
import ConversionSynthesis.Proofs.TypeExpr.Grammar
import ConversionSynthesis.Proofs.TypeExpr.Unambiguity
import ConversionSynthesis.Proofs.TypeExpr.Nesting
import ConversionSynthesis.Proofs.TypeExpr.Reading
import ConversionSynthesis.Proofs.TypeExpr.Placement
import ConversionSynthesis.Proofs.TypeExpr.Children
import ConversionSynthesis.Proofs.TypeExpr.Soundness
import ConversionSynthesis.Proofs.TypeExpr.Completeness
import ConversionSynthesis.Proofs.Manifest.Checking
import ConversionSynthesis.Proofs.Naming.Resolving
import ConversionSynthesis.Proofs.Operand.Forwarding
import ConversionSynthesis.Proofs.Manifest.Order
import ConversionSynthesis.Proofs.Manifest.Rewriting
import ConversionSynthesis.Proofs.Naming.Levels
import ConversionSynthesis.Proofs.Manifest.OwnName
import ConversionSynthesis.Proofs.Declaration.Essence
import ConversionSynthesis.Proofs.Naming.Respelling
import ConversionSynthesis.Proofs.Report.Decisions
import ConversionSynthesis.Proofs.Batch.Generation
import ConversionSynthesis.Proofs.Manifest.Respelling
import ConversionSynthesis.Proofs.TypeExpr.Nodes
import ConversionSynthesis.Proofs.TypeExpr.Depth
import ConversionSynthesis.Proofs.TypeExpr.Words
import ConversionSynthesis.Proofs.Naming.Identities
import ConversionSynthesis.Proofs.Batch.Clashes
import ConversionSynthesis.Proofs.Manifest.Unrelated
import ConversionSynthesis.Proofs.Manifest.Capability
import ConversionSynthesis.Proofs.Text.Joining
import ConversionSynthesis.Proofs.Batch.Identifiers
import ConversionSynthesis.Proofs.Delivery.Offers
import ConversionSynthesis.Proofs.Candidate.InStep
import ConversionSynthesis.Proofs.Report.InStep
import ConversionSynthesis.Proofs.Report.Packing
import ConversionSynthesis.Proofs.Candidate.WithoutTuples
import ConversionSynthesis.Proofs.Candidate.AddedConversions
import ConversionSynthesis.Proofs.Report.Locality
import ConversionSynthesis.Proofs.Delivery.Paths
import ConversionSynthesis.Proofs.Delivery.Files
import ConversionSynthesis.Proofs.Delivery.Mirror
import ConversionSynthesis.Proofs.CommandLine.Targets
import ConversionSynthesis.Proofs.Naming.Tuples
import ConversionSynthesis.Proofs.Manifest.WellFormed
import ConversionSynthesis.Proofs.Naming.Verbatim
import ConversionSynthesis.Proofs.Manifest.HostNames
import ConversionSynthesis.Proofs.Fragment.Names
import ConversionSynthesis.Proofs.TypeExpr.Inside
import ConversionSynthesis.Proofs.TypeExpr.Shifting
import ConversionSynthesis.Proofs.TypeExpr.Stretches
import ConversionSynthesis.Proofs.TypeExpr.NameTokens
import ConversionSynthesis.Proofs.Naming.Keywords
import ConversionSynthesis.Proofs.Manifest.SignatureNames
import ConversionSynthesis.Proofs.Signature.Laws
import ConversionSynthesis.Proofs.Manifest.IdentityText
import ConversionSynthesis.Proofs.Naming.Emitted
import ConversionSynthesis.Proofs.TypeExpr.Failing
import ConversionSynthesis.Proofs.TypeExpr.Lookahead
import ConversionSynthesis.Proofs.TypeExpr.BreakingOff
import ConversionSynthesis.Proofs.TypeExpr.ErrorPlaces
import ConversionSynthesis.Proofs.Declaration.Visibility
import ConversionSynthesis.Proofs.Text.Lines
import ConversionSynthesis.Proofs.Delivery.Truncation
import ConversionSynthesis.Proofs.Naming.Faults
import ConversionSynthesis.Proofs.TypeExpr.CheckedLexer
import ConversionSynthesis.Proofs.TypeExpr.CheckedParser
import ConversionSynthesis.Proofs.TypeExpr.CheckedReading
import ConversionSynthesis.Proofs.TypeExpr.ErrorSpans
import ConversionSynthesis.Proofs.Naming.CheckedResolution
import ConversionSynthesis.Proofs.Naming.Faultless
import ConversionSynthesis.Proofs.Text.SingleLines
import ConversionSynthesis.Proofs.Naming.SingleLines
import ConversionSynthesis.Proofs.Fragment.SingleLines
import ConversionSynthesis.Proofs.Fragment.Lines
import ConversionSynthesis.Proofs.Fragment.OperandTypes
import ConversionSynthesis.Proofs.TypeExpr.Kinds
import ConversionSynthesis.Proofs.TypeExpr.Spacing
