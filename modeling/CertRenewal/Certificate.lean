import CertRenewal.Bytes
import CertRenewal.Time

/-!
What is kept for a client: the key pair that certificates are requested for, and
the certificate itself with its times.
-/

namespace CertRenewal

structure Certificate where
  content : Bytes
  /-- The moment after which it is no longer accepted. -/
  validUntil : Instant
  /-- The moment after which a new one should be requested. -/
  refreshTime : Instant
deriving DecidableEq, Repr

/-- The key pair of the client. It is never generated here. -/
structure KeyPair where
  publicKey : Bytes
  privateKey : Bytes
deriving DecidableEq, Repr

/-- A description that gives nothing of the private key away. -/
def KeyPair.describe (keys : KeyPair) : String :=
  "StoredKeyPair \x7b public_key_len: " ++ toString keys.publicKey.length
    ++ ", private_key: \"<redacted>\" \x7d"

end CertRenewal
