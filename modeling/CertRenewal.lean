import CertRenewal.Main
import CertRenewal.Proofs.Closing
import CertRenewal.Proofs.Continuity
import CertRenewal.Proofs.Corruption
import CertRenewal.Proofs.Credentials
import CertRenewal.Proofs.Envelope
import CertRenewal.Proofs.Forced
import CertRenewal.Proofs.Interruption
import CertRenewal.Proofs.Issuance
import CertRenewal.Proofs.Layers
import CertRenewal.Proofs.Mirror
import CertRenewal.Proofs.NoTimeouts
import CertRenewal.Proofs.Outlived
import CertRenewal.Proofs.Pace
import CertRenewal.Proofs.Patience
import CertRenewal.Proofs.Persisted
import CertRenewal.Proofs.Provenance
import CertRenewal.Proofs.Quiescence
import CertRenewal.Proofs.Selector
import CertRenewal.Proofs.Sequence
import CertRenewal.Proofs.Sessions
import CertRenewal.Proofs.Spelling
import CertRenewal.Proofs.Startup
import CertRenewal.Proofs.Window
import CertRenewal.Rehearsal.Scene
import CertRenewal.Rehearsal.Setup
