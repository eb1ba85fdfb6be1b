import CertRenewal.Http.Headers

/-!
Messages over HTTP, as far as the program looks at them.
-/

namespace CertRenewal.Http

structure Message where
  method : String
  /-- The path, with a query where there is one, perhaps led by a scheme and a
  host. -/
  target : String
  headers : List Header
  body : Bytes
deriving Repr

namespace Message

/-- What follows a colon and two slashes, if they occur. -/
def behindScheme? : List Char → Option (List Char)
  | [] => none
  | ':' :: '/' :: '/' :: rest => some rest
  | _ :: rest => behindScheme? rest

def plainTarget (target : List Char) : List Char :=
  target.takeWhile fun char => char ≠ '?' && char ≠ '#'

/-- The path alone. An address that names a host and nothing on it means the root. -/
def path (message : Message) : String :=
  let target := plainTarget message.target.toList
  if target.head? = some '/' then String.ofList target
  else
    match behindScheme? target with
    | none => String.ofList target
    | some rest =>
      let path := rest.dropWhile (· ≠ '/')
      if path.isEmpty then "/" else String.ofList path

end Message

structure Response where
  status : Nat
  contentType : Option String
  /-- The methods that a path allows, when another one was tried. -/
  allow : Option String
  body : String
deriving DecidableEq, Repr

namespace Response

def empty (status : Nat) : Response := ⟨status, none, none, ""⟩

def json (status : Nat) (body : String) : Response := ⟨status, some "application/json", none, body⟩

def plain (status : Nat) (body : String) : Response :=
  ⟨status, some "text/plain; charset=utf-8", none, body⟩

end Response

end CertRenewal.Http
