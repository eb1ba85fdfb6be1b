import CertRenewal.Api.Bearer
import CertRenewal.Api.Body
import CertRenewal.Http.MediaType
import CertRenewal.Http.Message
import CertRenewal.Refresh.System

/-!
The control interface. A message is answered at once, or it asks for something
that takes time and is answered when that has ended. Everything but the question
of health needs the token, if there is one.
-/

namespace CertRenewal.Api

open Json Http

/-- What can be asked for, by its path. -/
inductive Endpoint
  | health
  | certificate
  | refresh
  | session
  | stop
  | start
deriving DecidableEq, Repr

namespace Endpoint

def path : Endpoint → String
  | health => "/api/v1/health"
  | certificate => "/api/v1/certificate"
  | refresh => "/api/v1/refresh"
  | session => "/api/v1/session"
  | stop => "/api/v1/stop"
  | start => "/api/v1/start"

def all : List Endpoint := [health, certificate, refresh, session, stop, start]

def ofPath? (path : String) : Option Endpoint := all.find? (·.path = path)

def isRead : Endpoint → Bool
  | health => true
  | certificate => true
  | _ => false

def methods (endpoint : Endpoint) : List String :=
  if endpoint.isRead then ["GET", "HEAD"] else ["POST"]

end Endpoint

inductive Reception
  | answered (response : Response)
  | refresh (request : Request)
  | session (session : Session)
  | stop
  | start

def bodyLimit : Nat := 2097152

def unauthorized : Response :=
  .json 401 (ErrorBody.plain "UNAUTHORIZED" "unauthorized").toTree.compact

def tooLarge : Response :=
  .plain 413 "Failed to buffer the request body: length limit exceeded"

def healthResponse (system : System) : Response :=
  .json 200 (Tree.object
    [("status", .text system.lifecycle.name),
     ("has_certificate", .bool system.store.certificate.isSome)]).compact

def secondsUntil (now moment : Instant) : Tree := .number (now.spanTo moment).wholeSeconds

def certificateResponse (system : System) : Response :=
  match system.store.certificate with
  | none => .json 200 (Tree.object [("present", .bool false)]).compact
  | some certificate =>
    .json 200 (Tree.object <|
      [("present", .bool true),
       ("refresh_in_secs", secondsUntil system.now certificate.refreshTime),
       ("valid_for_secs", secondsUntil system.now certificate.validUntil)]
      ++ Tree.member? "features" (system.store.features.map Features.toTree)).compact

def outcomeResponse (defaultBackoff : Nat) (success : String) : Outcome → Response
  | .ok () => .json 200 (Tree.object [(success, .bool true)]).compact
  | .error failure =>
    .json failure.httpStatus (failure.body (Span.ofMillis defaultBackoff)).toTree.compact

def refreshResponse (defaultBackoff : Nat) : Outcome → Response :=
  outcomeResponse defaultBackoff "refreshed"

def sessionResponse (defaultBackoff : Nat) : Outcome → Response :=
  outcomeResponse defaultBackoff "session"

def lifecycleResponse (state : Lifecycle) : Response :=
  .json 200 (Tree.object [("state", .text state.name)]).compact

def receiveRefresh (body : Bytes) : Reception :=
  if bodyLimit < body.length then .answered tooLarge
  else
    match RefreshBody.ofBytes body with
    | .ok request => .refresh request
    | .error fault =>
      .answered (.json 400 (ErrorBody.plain "BAD_REQUEST" (fault.message body)).toTree.compact)

def receiveSession (headers : List Header) (body : Bytes) : Reception :=
  match (Header.firstVisible? headers "content-type").filter MediaType.isJson with
  | none =>
    .answered (.plain 415 "Expected request with `Content-Type: application/json`")
  | some _ =>
    if bodyLimit < body.length then .answered tooLarge
    else
      match Session.ofBytes body with
      | .ok session => .session session
      | .error fault =>
        let reason := fault.messageWithPath body
        if fault.problem.isAboutMeaning then
          .answered (.plain 422
            ("Failed to deserialize the JSON body into the target type: " ++ reason))
        else .answered (.plain 400 ("Failed to parse the request body as JSON: " ++ reason))

def receiveAt (system : System) (endpoint : Endpoint) (message : Message) : Reception :=
  match endpoint with
  | .health => .answered (healthResponse system)
  | .certificate => .answered (certificateResponse system)
  | .refresh => receiveRefresh message.body
  | .session => receiveSession message.headers message.body
  | .stop => .stop
  | .start => .start

/-- Whether a message may be looked at: it is about health, or it carries the
token. -/
def isAuthorized (token : Option String) (message : Message) : Bool :=
  message.path = Endpoint.health.path || Bearer.allows message.headers token

/-- What becomes of a message before the answer is cut down to its head. -/
def receiveWhole (system : System) (token : Option String) (message : Message) : Reception :=
  match Endpoint.ofPath? message.path with
  | none =>
    .answered (if isAuthorized token message then .empty 404 else unauthorized)
  | some endpoint =>
    if endpoint.methods.contains message.method then
      if isAuthorized token message then receiveAt system endpoint message
      else .answered unauthorized
    else
      let refused : Response :=
        if isAuthorized token message then .empty 405 else unauthorized
      .answered { refused with allow := some (",".intercalate endpoint.methods) }

/-- What becomes of a message. An answer to a question for the head alone has no
body. -/
def receive (system : System) (token : Option String) (message : Message) : Reception :=
  match receiveWhole system token message with
  | .answered response =>
    .answered (if message.method = "HEAD" then { response with body := "" } else response)
  | other => other

end CertRenewal.Api
