import CertRenewal.Catalogue
import CertRenewal.Certificate
import CertRenewal.Features
import CertRenewal.Session

/-!
An issuer whose answers are laid down beforehand. Its two kinds of call pass a
gate each, where they may have to wait for a permit, and take their answer from
a script in the moment in which they end.
-/

namespace CertRenewal

/-- Where calls wait for a permit, one for each. -/
inductive Gate
  | unguarded
  | guarded (permits : Nat)
deriving DecidableEq, Repr

namespace Gate

/-- The gate behind a call that passes, if it can. -/
def pass? : Gate → Option Gate
  | unguarded => some unguarded
  | guarded 0 => none
  | guarded (permits + 1) => some (guarded permits)

def addPermits (more : Nat) : Gate → Gate
  | unguarded => unguarded
  | guarded permits => guarded (permits + more)

end Gate

inductive IssuerCall
  | refresh (publicKey : Bytes) (features : Option Features)
  | session (session : Session)
deriving DecidableEq, Repr

structure Issuer where
  refreshGate : Gate
  sessionGate : Gate
  /-- The milliseconds that a refresh takes behind the gate. -/
  delay : Nat
  refreshScript : List (Except RemoteFailure Certificate)
  sessionScript : List (Except RemoteFailure Unit)
  /-- Calls that were begun, the latest first. -/
  calls : List IssuerCall
  refreshCalls : Nat
  sessionCalls : Nat
  inFlight : Nat
  maxInFlight : Nat
  lastFeatures : Option Features

namespace Issuer

/-- The certificate of an answer that no script lays down: good for an hour
until its refresh, and for one more hour after that. -/
def standardCertificate (now : Instant) : Certificate :=
  { content := Bytes.ofText "test-certificate"
    validUntil := now.after (Span.ofSeconds 7200)
    refreshTime := now.after (Span.ofSeconds 3600) }

def beginRefresh (issuer : Issuer) (publicKey : Bytes) (features : Option Features) : Issuer :=
  { issuer with
    calls := .refresh publicKey features :: issuer.calls
    refreshCalls := issuer.refreshCalls + 1
    inFlight := issuer.inFlight + 1
    maxInFlight := max issuer.maxInFlight (issuer.inFlight + 1)
    lastFeatures := features }

def endRefresh (issuer : Issuer) (now : Instant) :
    Except RemoteFailure Certificate × Issuer :=
  match issuer.refreshScript with
  | [] => (.ok (standardCertificate now), { issuer with inFlight := issuer.inFlight - 1 })
  | answer :: script =>
    (answer, { issuer with inFlight := issuer.inFlight - 1, refreshScript := script })

def beginSession (issuer : Issuer) (session : Session) : Issuer :=
  { issuer with calls := .session session :: issuer.calls }

def endSession (issuer : Issuer) : Except RemoteFailure Unit × Issuer :=
  match issuer.sessionScript with
  | [] => (.ok (), { issuer with sessionCalls := issuer.sessionCalls + 1 })
  | answer :: script =>
    (answer, { issuer with sessionCalls := issuer.sessionCalls + 1, sessionScript := script })

end Issuer

end CertRenewal
