import CertRenewal.Certificate
import CertRenewal.Features

/-!
What a store holds, kept in memory. The certificate goes with the key pair it
was issued for, and the features with the certificate.
-/

namespace CertRenewal

structure Slots where
  keys : Option KeyPair
  certificate : Option Certificate
  features : Option Features
deriving DecidableEq, Repr

namespace Slots

def empty : Slots := ⟨none, none, none⟩

def withKeys (keys : KeyPair) : Slots := { empty with keys := some keys }

def store (slots : Slots) (certificate : Certificate) (features : Option Features) : Slots :=
  { slots with certificate := some certificate, features }

def storeKeys (slots : Slots) (keys : KeyPair) : Slots := { slots with keys := some keys }

def deleteCertificate (slots : Slots) : Slots :=
  { slots with certificate := none, features := none }

/-- Deletes the key pair, and the certificate that is useless without it. -/
def deleteKeys (slots : Slots) : Slots := { slots.deleteCertificate with keys := none }

end Slots

end CertRenewal
