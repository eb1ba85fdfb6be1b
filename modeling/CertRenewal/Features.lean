import CertRenewal.Json.Decode
import CertRenewal.Json.Printer

/-!
The connection features that a certificate is issued for: their comparison,
their written form and the form in which they are requested from the issuer. A
certificate only serves a connection whose features it was issued for, so a
change of any of them calls for a new one.
-/

namespace CertRenewal

inductive ShieldLevel
  | off
  | malware
  | malwareAdsTrackers
deriving DecidableEq, Repr, Inhabited

namespace ShieldLevel

def level : ShieldLevel → Nat
  | off => 0
  | malware => 1
  | malwareAdsTrackers => 2

def name : ShieldLevel → String
  | off => "off"
  | malware => "malware"
  | malwareAdsTrackers => "malware_ads_trackers"

def all : List ShieldLevel := [off, malware, malwareAdsTrackers]

end ShieldLevel

inductive NatMode
  | strict
  | moderate
deriving DecidableEq, Repr, Inhabited

namespace NatMode

def name : NatMode → String
  | strict => "strict"
  | moderate => "moderate"

def all : List NatMode := [strict, moderate]

end NatMode

/-- What the safe mode of two sets of features must satisfy for them to agree. -/
inductive SafeModeRule
  /-- The same choice, or none on both sides. -/
  | exact
  | tolerant
deriving DecidableEq, Repr

structure Features where
  shield : ShieldLevel
  accelerator : Bool
  nat : NatMode
  bouncing : Option String
  /-- Absent when the account has no say over it. -/
  safeMode : Option Bool
deriving DecidableEq, Repr

namespace Features

def none : Features := ⟨.off, false, .strict, .none, .none⟩

def safeModeAgrees : SafeModeRule → Option Bool → Option Bool → Bool
  | .exact, first, second => first = second
  | .tolerant, some first, some second => first = second
  | .tolerant, _, _ => true

def agree (rule : SafeModeRule) (first second : Features) : Bool :=
  first.shield = second.shield && first.accelerator = second.accelerator
    && first.nat = second.nat && first.bouncing = second.bouncing
    && safeModeAgrees rule first.safeMode second.safeMode

open Json

/-- The written form; absent choices are left out. -/
def toTree (features : Features) : Tree :=
  .object <|
    [("netshield", .text features.shield.name),
     ("vpn_accelerator", .bool features.accelerator),
     ("nat_type", .text features.nat.name)]
    ++ Tree.member? "bouncing" (features.bouncing.map .text)
    ++ Tree.member? "safe_mode" (features.safeMode.map .bool)

def requestTree (features : Features) : Tree :=
  .object <|
    [("NetShieldLevel", .number features.shield.level),
     ("RandomNAT", .bool (features.nat = .moderate)),
     ("SplitTCP", .bool features.accelerator)]
    ++ Tree.member? "Bouncing" (features.bouncing.map .text)
    ++ Tree.member? "SafeMode" (features.safeMode.map .bool)

structure Draft where
  shield : Option ShieldLevel
  accelerator : Option Bool
  nat : Option NatMode
  bouncing : Option (Option String)
  safeMode : Option (Option Bool)

/-- The fields of the written form. Only the accelerator is on when it is not
mentioned. -/
def shape : Shape Draft Features where
  name := "ConnectionFeatures"
  blank := ⟨.none, .none, .none, .none, .none⟩
  fields :=
    [⟨"netshield", (·.shield.isSome), fun draft => do
        return { draft with
          shield := some
            (← Reader.variant (ShieldLevel.all.map fun level => (level.name, level))) }, true⟩,
     ⟨"vpn_accelerator", (·.accelerator.isSome), fun draft => do
        return { draft with accelerator := some (← Reader.bool) }, true⟩,
     ⟨"nat_type", (·.nat.isSome), fun draft => do
        return { draft with
          nat := some (← Reader.variant (NatMode.all.map fun mode => (mode.name, mode))) }, true⟩,
     ⟨"bouncing", (·.bouncing.isSome), fun draft => do
        return { draft with bouncing := some (← Reader.optional Reader.string) }, true⟩,
     ⟨"safe_mode", (·.safeMode.isSome), fun draft => do
        return { draft with safeMode := some (← Reader.optional Reader.bool) }, true⟩]
  finish draft := .ok
    { shield := draft.shield.getD .off
      accelerator := draft.accelerator.getD true
      nat := draft.nat.getD .strict
      bouncing := draft.bouncing.getD .none
      safeMode := draft.safeMode.getD .none }

def ofBytes (bytes : Bytes) : Except Fault Features := readAll shape.read bytes

end Features

end CertRenewal
