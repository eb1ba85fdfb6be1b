import CertRenewal.Certificate
import CertRenewal.Features

/-!
Whether a stored certificate still serves. The rules are tried in order: there
must be one, it must have been issued for the features asked for, and the moment
of its refresh, moved earlier by a margin, must lie ahead.
-/

namespace CertRenewal

inductive Freshness
  | missing
  /-- Features are asked for, and it is not known which ones it was issued for. -/
  | featuresUnknown
  | featuresChanged
  | due
  | fresh (remaining : Span)
deriving DecidableEq, Repr

namespace Freshness

def needsRefresh : Freshness → Bool
  | .fresh _ => false
  | _ => true

def name : Freshness → String
  | .missing => "missing"
  | .featuresUnknown => "features_unknown"
  | .featuresChanged => "features_changed"
  | .due => "due"
  | .fresh _ => "fresh"

/-- The moment from which a certificate is refreshed. A moment that the clock
cannot name has long passed. -/
def deadline (certificate : Certificate) (margin : Span) : Instant :=
  (certificate.refreshTime.before? margin).getD Instant.epoch

def ofDeadline (now deadline : Instant) : Freshness :=
  if now < deadline then .fresh (now.spanTo deadline) else .due

/-- The verdict on what is stored, for the features asked for, at a moment. -/
def assess (stored : Option Certificate) (recorded requested : Option Features)
    (now : Instant) (margin : Span) : Freshness :=
  match stored with
  | none => .missing
  | some certificate =>
    match requested with
    | none => ofDeadline now (deadline certificate margin)
    | some wanted =>
      match recorded with
      | none => .featuresUnknown
      | some held =>
        if held.agree .tolerant wanted then ofDeadline now (deadline certificate margin)
        else .featuresChanged

end Freshness

end CertRenewal
