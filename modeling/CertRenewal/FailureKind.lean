import CertRenewal.Failure

/-!
The kinds of failure that a catalogue can name, and their tags. A detailed kind
is written as the name of its family, a colon and the name of the detail.
-/

namespace CertRenewal

/-- What a failure of the issuer can be made out to be. -/
inductive FailureKind
  | certificateExpired
  | certificateRevoked
  | sessionExpired
  | needNewKeys
  | tooManyRequests
  | policyViolation (breach : PolicyBreach)
  | systemError (fault : SystemFault)
deriving DecidableEq, Repr

namespace FailureKind

def tag : FailureKind → String
  | certificateExpired => "certificate_expired"
  | certificateRevoked => "certificate_revoked"
  | sessionExpired => "session_expired"
  | needNewKeys => "need_new_keys"
  | tooManyRequests => "too_many_requests"
  | policyViolation breach => "policy_violation:" ++ breach.tag
  | systemError fault => "system_error:" ++ fault.tag

def title : FailureKind → String
  | certificateExpired => "CertificateExpired"
  | certificateRevoked => "CertificateRevoked"
  | sessionExpired => "SessionExpiredOrMissing"
  | needNewKeys => "NeedNewKeys"
  | tooManyRequests => "TooManyRequests"
  | policyViolation breach => "PolicyViolation(" ++ breach.title ++ ")"
  | systemError fault => "SystemError(" ++ fault.title ++ ")"

/-- The characters before the first colon and those after it. -/
def splitAtColon (chars : List Char) : Option (List Char × List Char) :=
  match chars.dropWhile (· ≠ ':') with
  | [] => none
  | _ :: after => some (chars.takeWhile (· ≠ ':'), after)

def ofTag? (text : String) : Option FailureKind :=
  match splitAtColon text.toList with
  | some (family, detail) =>
    if family = "policy_violation".toList then
      (PolicyBreach.ofTag? (String.ofList detail)).map policyViolation
    else if family = "system_error".toList then
      (SystemFault.ofTag? (String.ofList detail)).map systemError
    else none
  | none =>
    if text = "certificate_expired" then some certificateExpired
    else if text = "certificate_revoked" then some certificateRevoked
    else if text = "session_expired" then some sessionExpired
    else if text = "need_new_keys" then some needNewKeys
    else if text = "too_many_requests" then some tooManyRequests
    else none

/-- What is said about a text that is no tag. -/
def unknownMessage (text : String) : String := "unknown error kind: " ++ text

/-- The failure of a kind. Only a rate limit carries the time to wait. -/
def toFailure (retryAfter : Option Span) : FailureKind → Failure
  | certificateExpired => .certificateExpired
  | certificateRevoked => .certificateRevoked
  | sessionExpired => .sessionExpired
  | needNewKeys => .needNewKeys
  | tooManyRequests => .tooManyRequests retryAfter
  | policyViolation breach => .policyViolation breach
  | systemError fault => .systemError fault

end FailureKind

end CertRenewal
