import MiniLisp.CommandLine
import MiniLisp.Environment
import MiniLisp.Main
import MiniLisp.Proofs.Aliasing
import MiniLisp.Proofs.Allocation
import MiniLisp.Proofs.Classification
import MiniLisp.Proofs.Commitment
import MiniLisp.Proofs.Completion
import MiniLisp.Proofs.DepthLimit
import MiniLisp.Proofs.Dispatch
import MiniLisp.Proofs.Equivalence
import MiniLisp.Proofs.Failures
import MiniLisp.Proofs.FrontEnds
import MiniLisp.Proofs.Isolation
import MiniLisp.Proofs.Joining
import MiniLisp.Proofs.Ordering
import MiniLisp.Proofs.Parameters
import MiniLisp.Proofs.Placeholder
import MiniLisp.Proofs.Provenance
import MiniLisp.Proofs.Reachable
import MiniLisp.Proofs.Reading
import MiniLisp.Proofs.Rereading
import MiniLisp.Proofs.RoundTrip
import MiniLisp.Proofs.Runs
import MiniLisp.Proofs.Scanning
import MiniLisp.Proofs.Scoping
import MiniLisp.Proofs.Transparency
import MiniLisp.Proofs.Unmentioned
