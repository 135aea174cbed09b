import Tutoring.Database
import Tutoring.Http
import Tutoring.Identity.Verifier
import Tutoring.Marketplace.Json
import Tutoring.Proofs.Contention
import Tutoring.Proofs.Lifecycle
import Tutoring.Proofs.Report
import Tutoring.Rehearsal
import Tutoring.Settings.Environment
import Tutoring.Settings.Json
import Tutoring.Proofs.Compensation
import Tutoring.Proofs.Ownership
import Tutoring.Proofs.Discretion
import Tutoring.Proofs.Attempt
import Tutoring.Proofs.Offer
import Tutoring.Proofs.Admission
import Tutoring.Proofs.Isolation
import Tutoring.Proofs.Acceptance
import Tutoring.Proofs.Retry
import Tutoring.Proofs.Gate
import Tutoring.Proofs.Masking
import Tutoring.Proofs.Transparency
import Tutoring.Proofs.Discipline
import Tutoring.Proofs.Transition
import Tutoring.Proofs.Precedence
import Tutoring.Proofs.Snapshot
import Tutoring.Proofs.Recovery
import Tutoring.Proofs.Roles
import Tutoring.Proofs.Receipt
import Tutoring.Proofs.Passes
import Tutoring.Proofs.Arrangement
import Tutoring.Proofs.Preservation
import Tutoring.Proofs.Spelling
import Tutoring.Proofs.Listener
