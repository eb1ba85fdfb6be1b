import CertRenewal.Features

/-!
Requests for a certificate, and the intervals that govern how they are served.
-/

namespace CertRenewal

/-- A request for a certificate with the given features. -/
structure Request where
  features : Option Features
  userInitiated : Bool
  /-- Whether the issuer is called even if the stored certificate still serves. -/
  forced : Bool
deriving DecidableEq, Repr

namespace Request

def background (features : Option Features) : Request := ⟨features, false, false⟩

def user (features : Option Features) : Request := ⟨features, true, false⟩

def afterSession (features : Option Features) : Request := ⟨features, false, true⟩

end Request

structure Intervals where
  /-- How long a request waits for the issuer token. -/
  waitTimeout : Nat
  checkInterval : Nat
  /-- How much before its time a certificate is refreshed. -/
  refreshEarlierBy : Nat
  /-- How long to hold off when the issuer does not say. -/
  defaultBackoff : Nat
deriving DecidableEq, Repr

def Intervals.standard : Intervals := ⟨120000, 120000, 180000, 60000⟩

end CertRenewal
