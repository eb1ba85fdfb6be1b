import CertRenewal.Catalogue
import CertRenewal.Certificate
import CertRenewal.Features
import CertRenewal.Http.Headers
import CertRenewal.Session
import CertRenewal.Text.Base64
import CertRenewal.Text.Whole
import CertRenewal.Url.Address

/-!
The issuer behind HTTP. A session is started by exchanging its selector for a
name and a token, which every later request for a certificate carries. Only an
exchange that succeeds changes the session in use.
-/

namespace CertRenewal

open Json

structure ApiSession where
  uid : String
  accessToken : String
deriving DecidableEq, Repr

structure HttpCall where
  method : String
  url : Url
  headers : List Header
  body : Option Tree

inductive Delivery
  | lost
  /-- An answer came, whose body may have broken off. -/
  | answered (status : UInt16) (headers : List Header) (body : Option Bytes)

abbrev Transport := HttpCall → Delivery

def Transport.unreachable : Transport := fun _ => .lost

/-- An issuer and the session with it that is in use. -/
structure HttpIssuer where
  /-- The address of the issuer, without slashes at the end. -/
  base : String
  deviceName : String
  /-- For how long certificates are to be valid, in the words of the host. -/
  duration : Option String
  session : Option ApiSession
deriving DecidableEq, Repr

inductive CertificateFault
  | failure (failure : RemoteFailure)
  /-- The certificate has a time that the clock cannot name. -/
  | timeOutOfRange
deriving DecidableEq, Repr

namespace HttpIssuer

def dropSlashes (text : String) : String :=
  String.ofList ((text.toList.reverse.dropWhile (· = '/')).reverse)

/-- The name that a client gives itself when its machine has none. -/
def standardDeviceName : String := "certkeeper"

def new (address : String) (duration machineName : Option String) : HttpIssuer :=
  ⟨dropSlashes address, machineName.getD standardDeviceName, duration, none⟩

def hasSession (issuer : HttpIssuer) : Bool := issuer.session.isSome

/-! Failures before and around an answer. -/

def withUrl (message : String) (url : Url) : RemoteFailure :=
  .transport (message ++ " for url (" ++ url.write ++ ")")

/-- A call that could not be put together. -/
def unbuilt : RemoteFailure := .transport "builder error"

def unbuiltFor (url : Url) : RemoteFailure := withUrl "builder error" url

def unsent (call : HttpCall) : RemoteFailure := withUrl "error sending request" call.url

def undecoded (call : HttpCall) : RemoteFailure :=
  withUrl "error decoding response body" call.url

def notSignedIn : RemoteFailure := ⟨some 401, none, "no API session", none⟩

/-! Putting a call together. -/

def sessionSegments : List String := ["auth", "v4", "sessions", "forks"]

/-- Where a selector is exchanged: it is one segment of the path. -/
def sessionUrl (issuer : HttpIssuer) (selector : String) : Except RemoteFailure Url :=
  match Url.read issuer.base with
  | .error fault => .error (.transport ("invalid issuer url: " ++ fault.message))
  | .ok url =>
    match url.extend (sessionSegments ++ [selector]) with
    | none => .error (.transport "issuer url cannot carry a path")
    | some extended => .ok extended

def certificateUrl (issuer : HttpIssuer) : Except RemoteFailure Url :=
  match Url.read (issuer.base ++ "/vpn/v1/certificate") with
  | .error _ => .error unbuilt
  | .ok url => .ok url

def isHeaderValue (value : Bytes) : Bool :=
  value.all fun byte => byte = 9 || 32 ≤ byte && byte ≠ 127

/-- Characters that may not stand in the host of a call. -/
def isBadInHost (char : Char) : Bool := ['"', '\x60', '\x7b', '\x7d'].contains char

/-- The longest address of a call, in bytes. -/
def urlLimit : Nat := 65534

def isSendable (url : Url) : Bool :=
  (url.scheme = "http".toList || url.scheme = "https".toList)
    && url.write.utf8ByteSize ≤ urlLimit
    && (match url.authority with
      | some authority => !authority.host.any isBadInHost
      | none => false)

/-- The name that an address claims, and the password if there is one. A name that is no
text is not taken out of the address; a password that is none is left out. -/
def claim? (url : Url) : Option (String × Option String) := do
  let authority ← url.authority
  let name ← Bytes.text? (Percent.decode authority.username)
  let password := authority.password.bind fun password => Bytes.text? (Percent.decode password)
  if name.isEmpty && password.isNone then none else some (name, password)

def claimHeader (name : String) (password : Option String) : Header :=
  let claim := name ++ ":" ++ password.getD ""
  ⟨"authorization", Bytes.ofText ("Basic " ++ Base64.encodeText (Bytes.ofText claim))⟩

/-- The address that is asked: the claim of a name goes into a header. -/
def moveClaim (url : Url) : Url × List Header :=
  match claim? url with
  | some (name, password) => (url.withoutClaim, [claimHeader name password])
  | none => (url, [])

/-- Puts a call together. -/
def prepare (method : String) (url : Url) (headers : List Header) (body : Option Tree) :
    Except RemoteFailure HttpCall :=
  if !url.hasHost then .error (unbuiltFor url)
  else
    let (address, claim) := moveClaim url
    if headers.any fun header => !isHeaderValue header.value then .error unbuilt
    else if !isSendable address then .error (unbuiltFor address)
    else .ok ⟨method, address, claim ++ headers, body⟩

def prepareSession (issuer : HttpIssuer) (session : Session) : Except RemoteFailure HttpCall := do
  let url ← issuer.sessionUrl session.selector
  let cookies := session.cookie.toList.map fun cookie => ⟨"cookie", Bytes.ofText cookie⟩
  prepare "GET" url cookies none

def certificateBody (issuer : HttpIssuer) (publicKey : Bytes) (features : Option Features) :
    Tree :=
  .object <|
    [("ClientPublicKey", .text (Base64.encodeText publicKey)),
     ("ClientPublicKeyMode", .text "EC"),
     ("DeviceName", .text issuer.deviceName),
     ("Mode", .text "session")]
    ++ Tree.member? "Features" (features.map Features.requestTree)
    ++ Tree.member? "Duration" (issuer.duration.map .text)

def sessionHeaders (session : ApiSession) : List Header :=
  [⟨"x-pm-uid", Bytes.ofText session.uid⟩,
   ⟨"authorization", Bytes.ofText ("Bearer " ++ session.accessToken)⟩]

def prepareCertificate (issuer : HttpIssuer) (session : ApiSession) (publicKey : Bytes)
    (features : Option Features) : Except RemoteFailure HttpCall := do
  let url ← issuer.certificateUrl
  prepare "POST" url
    (⟨"content-type", Bytes.ofText "application/json"⟩ :: sessionHeaders session)
    (some (issuer.certificateBody publicKey features))

/-! Reading an answer. -/

def trim (text : List Char) : List Char :=
  let isBlank := fun char => char = ' ' || char = '\t'
  ((text.dropWhile isBlank).reverse.dropWhile isBlank).reverse

def retryAfter (headers : List Header) : Option Span := do
  let value ← Header.firstVisible? headers "retry-after"
  let text ← Bytes.text? value
  match Whole.natural Number.natLimit (String.ofList (trim text.toList)) with
  | .ok seconds => some (Span.ofSeconds seconds)
  | .error _ => none

structure ErrorDraft where
  code : Option (Option Int)
  error : Option (Option String)

def errorShape : Shape ErrorDraft (Option Int × Option String) where
  name := "failure"
  blank := ⟨none, none⟩
  fields :=
    [⟨"Code", (·.code.isSome), fun draft => do
        return { draft with code := some (← Reader.optional Reader.int64) }, false⟩,
     ⟨"Error", (·.error.isSome), fun draft => do
        return { draft with error := some (← Reader.optional Reader.string) }, false⟩]
  finish draft := .ok (draft.code.getD none, draft.error.getD none)

/-- The failure that an answer without success tells of. A body that is not
understood is the message itself. -/
def refusal (status : UInt16) (headers : List Header) (body : Option Bytes) : RemoteFailure :=
  let text := (body.map Bytes.lossyText).getD ""
  let (code, error) :=
    match readAll errorShape.read (Bytes.ofText text) with
    | .ok read => read
    | .error _ => (none, none)
  { status := some status
    code := code.map Int64.ofInt
    message := error.getD text
    retryAfter := retryAfter headers }

def isSuccess (status : UInt16) : Bool := 200 ≤ status && status ≤ 299

def readAnswer {α : Type} (reader : Reader α) (call : HttpCall) :
    Delivery → Except RemoteFailure α
  | .lost => .error (unsent call)
  | .answered status headers body =>
    if isSuccess status then
      match body with
      | none => .error (undecoded call)
      | some bytes =>
        match readAll reader bytes with
        | .ok value => .ok value
        | .error _ => .error (undecoded call)
    else .error (refusal status headers body)

structure SessionDraft where
  uid : Option String
  accessToken : Option String

def sessionShape : Shape SessionDraft ApiSession where
  name := "session"
  blank := ⟨none, none⟩
  fields :=
    [⟨"UID", (·.uid.isSome), fun draft => do
        return { draft with uid := some (← Reader.string) }, false⟩,
     ⟨"AccessToken", (·.accessToken.isSome), fun draft => do
        return { draft with accessToken := some (← Reader.string) }, false⟩]
  finish draft :=
    match draft.uid with
    | none => .error (.missingField "UID")
    | some uid =>
      match draft.accessToken with
      | none => .error (.missingField "AccessToken")
      | some accessToken => .ok ⟨uid, accessToken⟩

/-- A certificate as the issuer writes it; its times are in whole seconds. -/
structure IssuedCertificate where
  certificate : String
  expirationTime : Nat
  refreshTime : Nat
deriving DecidableEq, Repr

structure CertificateDraft where
  certificate : Option String
  expirationTime : Option Nat
  refreshTime : Option Nat

def certificateShape : Shape CertificateDraft IssuedCertificate where
  name := "certificate"
  blank := ⟨none, none, none⟩
  fields :=
    [⟨"Certificate", (·.certificate.isSome), fun draft => do
        return { draft with certificate := some (← Reader.string) }, false⟩,
     ⟨"ExpirationTime", (·.expirationTime.isSome), fun draft => do
        return { draft with expirationTime := some (← Reader.uint64) }, false⟩,
     ⟨"RefreshTime", (·.refreshTime.isSome), fun draft => do
        return { draft with refreshTime := some (← Reader.uint64) }, false⟩]
  finish draft :=
    match draft.certificate with
    | none => .error (.missingField "Certificate")
    | some certificate =>
      match draft.expirationTime with
      | none => .error (.missingField "ExpirationTime")
      | some expirationTime =>
        match draft.refreshTime with
        | none => .error (.missingField "RefreshTime")
        | some refreshTime => .ok ⟨certificate, expirationTime, refreshTime⟩

/-- The certificate with its times as moments, if the clock can name them. -/
def IssuedCertificate.certificate? (issued : IssuedCertificate) : Option Certificate := do
  return {
    content := Bytes.ofText issued.certificate
    validUntil := ← Instant.ofEpochSeconds? issued.expirationTime
    refreshTime := ← Instant.ofEpochSeconds? issued.refreshTime }

/-! The calls. -/

def concludeSession (issuer : HttpIssuer) (call : HttpCall) (delivery : Delivery) :
    Except RemoteFailure Unit × HttpIssuer :=
  match readAnswer sessionShape.read call delivery with
  | .ok session => (.ok (), { issuer with session := some session })
  | .error failure => (.error failure, issuer)

def startSession (issuer : HttpIssuer) (transport : Transport) (session : Session) :
    Except RemoteFailure Unit × HttpIssuer :=
  match issuer.prepareSession session with
  | .error failure => (.error failure, issuer)
  | .ok call => issuer.concludeSession call (transport call)

def concludeCertificate (call : HttpCall) (delivery : Delivery) :
    Except CertificateFault Certificate :=
  match readAnswer certificateShape.read call delivery with
  | .error failure => .error (.failure failure)
  | .ok issued =>
    match issued.certificate? with
    | some certificate => .ok certificate
    | none => .error .timeOutOfRange

/-- Requests a certificate; without a session nothing is sent. -/
def refreshCertificate (issuer : HttpIssuer) (transport : Transport) (publicKey : Bytes)
    (features : Option Features) : Except CertificateFault Certificate :=
  match issuer.session with
  | none => .error (.failure notSignedIn)
  | some session =>
    match issuer.prepareCertificate session publicKey features with
    | .error failure => .error (.failure failure)
    | .ok call => concludeCertificate call (transport call)

end HttpIssuer

end CertRenewal
