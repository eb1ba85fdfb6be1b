import CertRenewal.Json.Printer
import CertRenewal.Time

/-!
How a refresh can fail, what each failure is called and how it is answered, and
what a client is told to do about it.
-/

namespace CertRenewal

/-- A rule of the issuer that the account or the request breaks. -/
inductive PolicyBreach
  | restrictedServer
  | lowPlan
  | delinquent
  | torrentNotAllowed
  | badBehavior
  | guestSession
  | maxSessionsUnknown
  | maxSessionsFree
  | maxSessionsBasic
  | maxSessionsPlus
  | maxSessionsVisionary
  | maxSessionsPro
deriving DecidableEq, Repr

namespace PolicyBreach

def all : List PolicyBreach :=
  [restrictedServer, lowPlan, delinquent, torrentNotAllowed, badBehavior, guestSession,
   maxSessionsUnknown, maxSessionsFree, maxSessionsBasic, maxSessionsPlus,
   maxSessionsVisionary, maxSessionsPro]

def tag : PolicyBreach → String
  | restrictedServer => "restricted_server"
  | lowPlan => "low_plan"
  | delinquent => "delinquent"
  | torrentNotAllowed => "torrent_not_allowed"
  | badBehavior => "bad_behavior"
  | guestSession => "guest_session"
  | maxSessionsUnknown => "max_sessions_unknown"
  | maxSessionsFree => "max_sessions_free"
  | maxSessionsBasic => "max_sessions_basic"
  | maxSessionsPlus => "max_sessions_plus"
  | maxSessionsVisionary => "max_sessions_visionary"
  | maxSessionsPro => "max_sessions_pro"

def title : PolicyBreach → String
  | restrictedServer => "RestrictedServer"
  | lowPlan => "LowPlan"
  | delinquent => "Delinquent"
  | torrentNotAllowed => "TorrentNotAllowed"
  | badBehavior => "BadBehavior"
  | guestSession => "GuestSession"
  | maxSessionsUnknown => "MaxSessionsUnknown"
  | maxSessionsFree => "MaxSessionsFree"
  | maxSessionsBasic => "MaxSessionsBasic"
  | maxSessionsPlus => "MaxSessionsPlus"
  | maxSessionsVisionary => "MaxSessionsVisionary"
  | maxSessionsPro => "MaxSessionsPro"

def ofTag? (text : String) : Option PolicyBreach := all.find? (·.tag = text)

end PolicyBreach

/-- Trouble at the issuer that the client is not to blame for. -/
inductive SystemFault
  | serverError
  | badCertificateSignature
  | certificateNotProvided
  | netshield
  | nonRandomizedNat
  | splitTcp
  | safeMode
deriving DecidableEq, Repr

namespace SystemFault

def all : List SystemFault :=
  [serverError, badCertificateSignature, certificateNotProvided, netshield, nonRandomizedNat,
   splitTcp, safeMode]

def tag : SystemFault → String
  | serverError => "server_error"
  | badCertificateSignature => "bad_certificate_signature"
  | certificateNotProvided => "certificate_not_provided"
  | netshield => "netshield"
  | nonRandomizedNat => "non_randomized_nat"
  | splitTcp => "split_tcp"
  | safeMode => "safe_mode"

def title : SystemFault → String
  | serverError => "ServerError"
  | badCertificateSignature => "BadCertificateSignature"
  | certificateNotProvided => "CertificateNotProvided"
  | netshield => "Netshield"
  | nonRandomizedNat => "NonRandomizedNat"
  | splitTcp => "SplitTcp"
  | safeMode => "SafeMode"

def ofTag? (text : String) : Option SystemFault := all.find? (·.tag = text)

end SystemFault

inductive Failure
  /-- The issuer token did not come free in time. -/
  | timedOut
  /-- The request was given up, usually because the program is stopping. -/
  | cancelled
  /-- There is no key pair, or the issuer rejects it. -/
  | needNewKeys
  | sessionExpired
  | tooManyRequests (retryAfter : Option Span)
  | policyViolation (breach : PolicyBreach)
  | certificateRevoked
  | certificateExpired
  | systemError (fault : SystemFault)
  | unclassified (message : String)
deriving DecidableEq, Repr

abbrev Outcome := Except Failure Unit

instance : DecidableEq Outcome
  | .ok (), .ok () => isTrue rfl
  | .ok (), .error _ => isFalse (by simp)
  | .error _, .ok () => isFalse (by simp)
  | .error first, .error second =>
    if same : first = second then isTrue (by rw [same]) else isFalse (by simpa using same)

inductive Recovery
  | regenerateKeys
  | reauthenticate
  | backOff (span : Span)
  | retry
  | ignore
  | surface
deriving DecidableEq, Repr

def Recovery.name : Recovery → String
  | .regenerateKeys => "regenerate_keys"
  | .reauthenticate => "reauthenticate"
  | .backOff _ => "back_off"
  | .retry => "retry"
  | .ignore => "ignore"
  | .surface => "surface"

namespace Failure

def code : Failure → String
  | .timedOut => "TIMED_OUT"
  | .cancelled => "CANCELLED"
  | .needNewKeys => "NEED_NEW_KEYS"
  | .sessionExpired => "SESSION_EXPIRED"
  | .tooManyRequests _ => "TOO_MANY_REQUESTS"
  | .policyViolation _ => "POLICY_VIOLATION"
  | .certificateRevoked => "CERTIFICATE_REVOKED"
  | .certificateExpired => "CERTIFICATE_EXPIRED"
  | .systemError _ => "SYSTEM_ERROR"
  | .unclassified _ => "UNCLASSIFIED"

def httpStatus : Failure → Nat
  | .timedOut => 503
  | .cancelled => 409
  | .needNewKeys => 409
  | .sessionExpired => 401
  | .tooManyRequests _ => 429
  | .policyViolation _ => 403
  | .certificateRevoked => 403
  | .certificateExpired => 403
  | .systemError _ => 502
  | .unclassified _ => 500

/-- Whether nothing can succeed again before the client acts. -/
def isFatal : Failure → Bool
  | .needNewKeys => true
  | .sessionExpired => true
  | _ => false

def recovery (defaultBackoff : Span) : Failure → Recovery
  | .needNewKeys => .regenerateKeys
  | .sessionExpired => .reauthenticate
  | .tooManyRequests retryAfter => .backOff (retryAfter.getD defaultBackoff)
  | .timedOut => .retry
  | .cancelled => .ignore
  | .policyViolation _ => .surface
  | .certificateRevoked => .surface
  | .certificateExpired => .surface
  | .systemError _ => .surface
  | .unclassified _ => .surface

def message : Failure → String
  | .timedOut => "timed out waiting for in-flight refresh"
  | .cancelled => "refresh cancelled"
  | .needNewKeys => "key pair missing or rejected"
  | .sessionExpired => "api session expired or missing"
  | .tooManyRequests (some span) =>
    "too many certificate requests, retry after " ++ toString span.wholeSeconds ++ "s"
  | .tooManyRequests none => "too many certificate requests"
  | .policyViolation breach => "policy violation: " ++ breach.title
  | .certificateRevoked => "certificate revoked"
  | .certificateExpired => "certificate expired"
  | .systemError fault => "system error: " ++ fault.title
  | .unclassified message => "refresh failed: " ++ message

end Failure

structure ErrorBody where
  code : String
  message : String
  retryAfterSeconds : Option Nat
  recovery : Option String
deriving DecidableEq, Repr

namespace ErrorBody

/-- An error outside of refreshing, such as a request that is not understood. -/
def plain (code message : String) : ErrorBody := ⟨code, message, none, none⟩

open Json in
/-- The envelope that carries an error; what does not apply is left out. -/
def toTree (body : ErrorBody) : Tree :=
  .object [("error", .object <|
    [("code", .text body.code), ("message", .text body.message)]
    ++ Tree.member? "retry_after_secs" (body.retryAfterSeconds.map fun secs => .number secs)
    ++ Tree.member? "recovery" (body.recovery.map .text))]

end ErrorBody

def Recovery.retryAfterSeconds : Recovery → Option Nat
  | .backOff span => some span.wholeSeconds
  | _ => none

def Failure.body (defaultBackoff : Span) (failure : Failure) : ErrorBody :=
  let recovery := failure.recovery defaultBackoff
  { code := failure.code
    message := failure.message
    retryAfterSeconds := recovery.retryAfterSeconds
    recovery := some recovery.name }

end CertRenewal
