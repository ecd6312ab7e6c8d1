import HMSignature.Main
import HMSignature.Proofs.CommandLine.Agreement
import HMSignature.Proofs.CommandLine.TreeOutput
import HMSignature.Proofs.Definition.Arity
import HMSignature.Proofs.Definition.Description
import HMSignature.Proofs.Definition.Signature
import HMSignature.Proofs.Descriptor.Abstraction
import HMSignature.Proofs.Descriptor.Equivalence
import HMSignature.Proofs.Descriptor.Renaming
import HMSignature.Proofs.Grammar.Bracketed
import HMSignature.Proofs.Grammar.Layout
import HMSignature.Proofs.Grammar.Mismatch
import HMSignature.Proofs.Grammar.Session
import HMSignature.Proofs.Resolution.Arguments
import HMSignature.Proofs.Resolution.Locality
import HMSignature.Proofs.Resolution.Renaming
import HMSignature.Proofs.Resolution.Segments
import HMSignature.Proofs.Resolution.Sharing
import HMSignature.Proofs.Resolution.TopLevel
import HMSignature.Proofs.TypeClass.Hierarchy
import HMSignature.Proofs.Resolution.Obligations
import HMSignature.Proofs.Config
import HMSignature.Proofs.Grammar.Budget
import HMSignature.Proofs.Resolution.Visits
import HMSignature.Proofs.Index
import HMSignature.Proofs.Construction
