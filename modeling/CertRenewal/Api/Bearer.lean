import CertRenewal.Http.Headers

/-!
The token that opens the control interface. It is compared in a way whose course
does not depend on where two texts differ.
-/

namespace CertRenewal.Bearer

/-- The bits in which two byte strings of one length differ, gathered in one
byte. -/
def difference (first second : Bytes) : UInt8 :=
  (first.zip second).foldl (fun bits pair => bits ||| (pair.1 ^^^ pair.2)) 0

def sameBytes (first second : Bytes) : Bool :=
  first.length = second.length && difference first second = 0

def scheme : Bytes := Bytes.ofText "Bearer "

/-- The bytes after the scheme, when a value begins with it. -/
def presented? (value : Bytes) : Option Bytes :=
  if value.take scheme.length = scheme then some (value.drop scheme.length) else none

/-- Whether headers carry the expected token in the first value that is meant
for it. Without an expected token everything is allowed. -/
def allows (headers : List Header) (expected : Option String) : Bool :=
  match expected with
  | none => true
  | some token =>
    match (Header.firstVisible? headers "authorization").bind presented? with
    | none => false
    | some presented => sameBytes presented (Bytes.ofText token)

end CertRenewal.Bearer
