import CertFailover.Files.Edit
import CertFailover.Session
import CertFailover.Proofs.Confinement
import CertFailover.Proofs.Document
import CertFailover.Proofs.Exhaustion
import CertFailover.Proofs.Failover
import CertFailover.Proofs.Pairing
import CertFailover.Proofs.Provenance
import CertFailover.Proofs.Representation
import CertFailover.Proofs.Retry
import CertFailover.Proofs.Restoration
import CertFailover.Proofs.Attribution
import CertFailover.Proofs.Renewal
import CertFailover.Proofs.Redaction
import CertFailover.Proofs.Secrecy
import CertFailover.Proofs.Misuse
import CertFailover.Proofs.Agreement
import CertFailover.Proofs.Isolation
import CertFailover.Proofs.Discretion
import CertFailover.Proofs.Statelessness
import CertFailover.Proofs.Selection
import CertFailover.Proofs.Labels
import CertFailover.Proofs.Finality
import CertFailover.Proofs.Reports
import CertFailover.Proofs.Deliveries
import CertFailover.Proofs.Answers
import CertFailover.Proofs.Grammar
import CertFailover.Proofs.Engines
import CertFailover.Proofs.Wholeness
import CertFailover.Proofs.Repetition
import CertFailover.Proofs.Boundaries
import CertFailover.Proofs.Slots
import CertFailover.Proofs.Buffers
import CertFailover.Proofs.Decoding
