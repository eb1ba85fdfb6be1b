import CertRenewal.Json.Decode

/-!
A session with the issuer that the host hands over: the selector that names it,
and a cookie to show with it where one is needed.
-/

namespace CertRenewal

open Json

structure Session where
  selector : String
  cookie : Option String
deriving DecidableEq, Repr

namespace Session

/-- A description that does not give the cookie away. -/
def describe (session : Session) : String :=
  "Session \x7b selector: " ++ Quoted.quote session.selector ++ ", cookie: "
    ++ (if session.cookie.isSome then "Some(\"[redacted]\")" else "None") ++ " \x7d"

structure Draft where
  selector : Option String
  cookie : Option (Option String)

def shape : Shape Draft Session where
  name := "Session"
  blank := ⟨none, none⟩
  fields :=
    [⟨"selector", (·.selector.isSome), fun draft => do
        return { draft with selector := some (← Reader.string) }, false⟩,
     ⟨"cookie", (·.cookie.isSome), fun draft => do
        return { draft with cookie := some (← Reader.optional Reader.string) }, true⟩]
  finish draft :=
    match draft.selector with
    | none => .error (.missingField "selector")
    | some selector => .ok ⟨selector, draft.cookie.getD none⟩

def ofBytes (bytes : Bytes) : Except Fault Session := readAll shape.read bytes

end Session

end CertRenewal
