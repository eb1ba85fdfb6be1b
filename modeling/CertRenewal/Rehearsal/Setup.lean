import CertRenewal.Refresh.System

/-!
The state in which a rehearsal of the program begins. The clock is moved by hand
and the issuer follows a script.
-/

namespace CertRenewal.Rehearsal

def standardKeys : KeyPair := ⟨Bytes.ofText "public-der", Bytes.ofText "private"⟩

structure Setup where
  origin : Instant
  keepsFiles : Bool
  hasKeys : Bool
  intervals : Intervals
  tickSource : TickSource
  catalogue : Catalogue
  guardsRefreshes : Bool
  guardsSessions : Bool
  delay : Nat
  refreshScript : List (Except RemoteFailure Certificate)
  sessionScript : List (Except RemoteFailure Unit)
  storeRefusal : Option String

namespace Setup

def gate (isGuarded : Bool) : Gate := if isGuarded then .guarded 0 else .unguarded

/-- The store, in memory or in an empty directory, and the keys put into it. -/
def store (setup : Setup) : Store :=
  let empty : Store :=
    if setup.keepsFiles then .directory ⟨[], .empty⟩ else .memory Slots.empty
  if setup.hasKeys then (empty.storeKeys standardKeys).2 else empty

def outset (setup : Setup) : Outset where
  intervals := setup.intervals
  catalogue := setup.catalogue
  tickSource := setup.tickSource
  origin := setup.origin
  store := setup.store
  storeRefusal := setup.storeRefusal
  refreshGate := gate setup.guardsRefreshes
  sessionGate := gate setup.guardsSessions
  delay := setup.delay
  refreshScript := setup.refreshScript
  sessionScript := setup.sessionScript

def system (setup : Setup) : System := setup.outset.system

end Setup

end CertRenewal.Rehearsal
