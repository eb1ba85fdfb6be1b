import CertRenewal.Certificate
import CertRenewal.Features
import CertRenewal.Text.Base64

/-!
The two documents that a store keeps on disk: one holds the key pair, the other
the certificate together with the features it was issued for. Bytes are written
in Base64 and times as whole milliseconds since the epoch.
-/

namespace CertRenewal

open Json

structure KeyDocument where
  publicKey : String
  privateKey : String
deriving DecidableEq, Repr

namespace KeyDocument

def ofKeys (keys : KeyPair) : KeyDocument :=
  ⟨Base64.encodeText keys.publicKey, Base64.encodeText keys.privateKey⟩

/-- The key pair, when both texts are Base64. -/
def keys? (document : KeyDocument) : Option KeyPair := do
  return ⟨← Base64.decodeText document.publicKey, ← Base64.decodeText document.privateKey⟩

def toTree (document : KeyDocument) : Tree :=
  .object [("public_key", .text document.publicKey), ("private_key", .text document.privateKey)]

structure Draft where
  publicKey : Option String
  privateKey : Option String

def shape : Shape Draft KeyDocument where
  name := "keys"
  blank := ⟨none, none⟩
  fields :=
    [⟨"public_key", (·.publicKey.isSome), fun draft => do
        return { draft with publicKey := some (← Reader.string) }, false⟩,
     ⟨"private_key", (·.privateKey.isSome), fun draft => do
        return { draft with privateKey := some (← Reader.string) }, false⟩]
  finish draft :=
    match draft.publicKey with
    | none => .error (.missingField "public_key")
    | some publicKey =>
      match draft.privateKey with
      | none => .error (.missingField "private_key")
      | some privateKey => .ok ⟨publicKey, privateKey⟩

def ofBytes (bytes : Bytes) : Except Fault KeyDocument := readAll shape.read bytes

def toBytes (document : KeyDocument) : Bytes := Bytes.ofText document.toTree.pretty

end KeyDocument

structure CertificateDocument where
  certificate : String
  validUntil : Nat
  refreshTime : Nat
  features : Option Features
deriving DecidableEq, Repr

namespace CertificateDocument

def ofCertificate (certificate : Certificate) (features : Option Features) :
    CertificateDocument :=
  { certificate := Base64.encodeText certificate.content
    validUntil := certificate.validUntil.epochMillis
    refreshTime := certificate.refreshTime.epochMillis
    features }

/-- The certificate, when its text is Base64. -/
def certificate? (document : CertificateDocument) : Option Certificate := do
  return ⟨← Base64.decodeText document.certificate, Instant.ofEpochMillis document.validUntil,
    Instant.ofEpochMillis document.refreshTime⟩

def toTree (document : CertificateDocument) : Tree :=
  .object <|
    [("certificate", .text document.certificate),
     ("valid_until_ms", .number document.validUntil),
     ("refresh_time_ms", .number document.refreshTime)]
    ++ Tree.member? "features" (document.features.map Features.toTree)

structure Draft where
  certificate : Option String
  validUntil : Option Nat
  refreshTime : Option Nat
  features : Option (Option Features)

def shape : Shape Draft CertificateDocument where
  name := "certificate"
  blank := ⟨none, none, none, none⟩
  fields :=
    [⟨"certificate", (·.certificate.isSome), fun draft => do
        return { draft with certificate := some (← Reader.string) }, false⟩,
     ⟨"valid_until_ms", (·.validUntil.isSome), fun draft => do
        return { draft with validUntil := some (← Reader.uint64) }, false⟩,
     ⟨"refresh_time_ms", (·.refreshTime.isSome), fun draft => do
        return { draft with refreshTime := some (← Reader.uint64) }, false⟩,
     ⟨"features", (·.features.isSome), fun draft => do
        return { draft with features := some (← Reader.optional Features.shape.read) }, true⟩]
  finish draft :=
    match draft.certificate with
    | none => .error (.missingField "certificate")
    | some certificate =>
      match draft.validUntil with
      | none => .error (.missingField "valid_until_ms")
      | some validUntil =>
        match draft.refreshTime with
        | none => .error (.missingField "refresh_time_ms")
        | some refreshTime =>
          .ok ⟨certificate, validUntil, refreshTime, draft.features.getD none⟩

def ofBytes (bytes : Bytes) : Except Fault CertificateDocument := readAll shape.read bytes

def toBytes (document : CertificateDocument) : Bytes := Bytes.ofText document.toTree.pretty

end CertificateDocument

end CertRenewal
