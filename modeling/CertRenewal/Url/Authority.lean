import CertRenewal.Url.Host
import CertRenewal.Url.Scheme

/-!
Authorities of addresses: whom the asker claims to be, whom is asked and at which
port. Each part is read off the front of what follows the double slash.
-/

namespace CertRenewal

/-- Who is asked: a host and perhaps a port, and whom the asker claims to be. -/
structure Authority where
  username : List Char
  password : Option (List Char)
  host : List Char
  port : Option Nat
deriving DecidableEq, Repr

structure Claim where
  username : List Char
  password : Option (List Char)
deriving DecidableEq, Repr

namespace Claim

def nobody : Claim := ⟨[], none⟩

def ofText (text : List Char) : Claim :=
  let name := Percent.encode Percent.inUserinfo (text.takeWhile (· ≠ ':'))
  match text.dropWhile (· ≠ ':') with
  | [] => ⟨name, none⟩
  | _ :: password =>
    ⟨name, if password.isEmpty then none
      else some (Percent.encode Percent.inUserinfo password)⟩

/-- Reads a claim up to the last at sign before the end of the authority. An
empty one is no claim, but something must follow it. -/
def read (special : Bool) (text : List Char) : Except UrlFault (Claim × List Char) :=
  let reversed := (text.takeWhile (!Scheme.ends special ·)).reverse
  match reversed.dropWhile (· ≠ '@') with
  | [] => .ok (nobody, text)
  | _ :: claim =>
    let rest := text.drop (claim.length + 1)
    if claim.isEmpty && rest.head?.any (Scheme.ends special) then .error .emptyHost
    else .ok (ofText claim.reverse, rest)

end Claim

namespace Authority

def nameless : Authority := ⟨[], none, [], none⟩

def write (authority : Authority) : List Char :=
  let claim :=
    match authority.username, authority.password with
    | [], none => []
    | name, none => name ++ ['@']
    | name, some password => name ++ ':' :: password ++ ['@']
  let port :=
    match authority.port with
    | none => []
    | some port => ':' :: (toString port).toList
  '/' :: '/' :: claim ++ authority.host ++ port

/-- Splits a text behind the host it begins with; colons in brackets do not end
the host. -/
def splitHost (special : Bool) : Bool → List Char → List Char → List Char × List Char
  | _, host, [] => (host.reverse, [])
  | inside, host, char :: rest =>
    if Scheme.ends special char || char = ':' && !inside then (host.reverse, char :: rest)
    else splitHost special (char = '[' || inside && char ≠ ']') (char :: host) rest

/-- Reads a port behind its colon. It is followed by nothing, by a slash of either
kind, or by a query or a fragment. -/
def readPort (scheme : List Char) (text : List Char) :
    Except UrlFault (Option Nat × List Char) :=
  let digits := text.takeWhile (!Scheme.ends true ·)
  match Digit.number? 10 digits with
  | none => .error .badPort
  | some port =>
    if 65535 < port then .error .badPort
    else
      let isWritten := !digits.isEmpty && Scheme.standardPort scheme ≠ some port
      .ok (if isWritten then some port else none, text.drop digits.length)

def read (scheme : List Char) (text : List Char) : Except UrlFault (Authority × List Char) := do
  let special := Scheme.isSpecial scheme
  let (claim, named) ← Claim.read special text
  let (hostText, rest) := splitHost special false [] named
  let port := rest.head? = some ':'
  if hostText.isEmpty && (special || port) then throw .emptyHost
  let host ← if special then Host.readDomain hostText else Host.readOpaque hostText
  if host.isEmpty && claim ≠ .nobody then throw .emptyHost
  let (port, rest) ← if port then readPort scheme (rest.drop 1) else pure (none, rest)
  return (⟨claim.username, claim.password, host, port⟩, rest)

/-- Reads the host of a file, which is all that stands before the path. The
machine itself is not named. -/
def readFileHost (text : List Char) : Except UrlFault (Authority × List Char) := do
  let hostText := text.takeWhile (!Scheme.ends true ·)
  if hostText.isEmpty then return (nameless, text)
  let host ← Host.readDomain hostText
  return (⟨[], none, if host = "localhost".toList then [] else host, none⟩,
    text.drop hostText.length)

end Authority

end CertRenewal
