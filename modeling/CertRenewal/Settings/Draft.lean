import CertRenewal.Settings.Basic
import CertRenewal.Settings.Fault

/-!
Settings of which some were given. A setting can be given once; what was not
given has its standard value in the end.
-/

namespace CertRenewal

structure SettingsDraft where
  host : Option String
  port : Option UInt16
  authToken : Option String
  issuerUrl : Option String
  stateDirectory : Option String
  waitTimeout : Option Nat
  checkInterval : Option Nat
  refreshEarlierBy : Option Nat
  defaultBackoff : Option Nat
  certificateDuration : Option String
  catalogueFile : Option String
  logFormat : Option LogFormat
deriving DecidableEq, Repr

namespace SettingsDraft

def blank : SettingsDraft :=
  ⟨none, none, none, none, none, none, none, none, none, none, none, none⟩

def has (draft : SettingsDraft) : Setting → Bool
  | .host => draft.host.isSome
  | .port => draft.port.isSome
  | .authToken => draft.authToken.isSome
  | .issuerUrl => draft.issuerUrl.isSome
  | .stateDirectory => draft.stateDirectory.isSome
  | .waitTimeout => draft.waitTimeout.isSome
  | .checkInterval => draft.checkInterval.isSome
  | .refreshEarlierBy => draft.refreshEarlierBy.isSome
  | .defaultBackoff => draft.defaultBackoff.isSome
  | .certificateDuration => draft.certificateDuration.isSome
  | .catalogueFile => draft.catalogueFile.isSome
  | .logFormat => draft.logFormat.isSome

/-! Reading values. -/

def portLimit : Nat := 65535

def millisLimit : Nat := 18446744073709551615

def readPort (setting : Setting) (value : String) : Except UsageFault UInt16 :=
  match Whole.integer value with
  | .error fault => .error (.badNumber setting value (.notWhole fault))
  | .ok number =>
    if 0 ≤ number ∧ number ≤ portLimit then .ok (UInt16.ofNat number.toNat)
    else .error (.badNumber setting value (.outOfRange number portLimit))

def readMillis (setting : Setting) (value : String) : Except UsageFault Nat :=
  (Whole.natural millisLimit value).mapError fun fault =>
    .badNumber setting value (.notWhole fault)

def readPath (setting : Setting) (value : String) : Except UsageFault String :=
  if value.isEmpty then .error (.missingValue setting) else .ok value

def readLogFormat (setting : Setting) (value : String) : Except UsageFault LogFormat :=
  match LogFormat.ofName? value with
  | some format => .ok format
  | none =>
    if value.isEmpty then .error (.missingValue setting) else .error (.badChoice setting value)

def set (draft : SettingsDraft) (setting : Setting) (value : String) :
    Except UsageFault SettingsDraft :=
  match setting with
  | .host => .ok { draft with host := some value }
  | .port => do return { draft with port := some (← readPort setting value) }
  | .authToken => .ok { draft with authToken := some value }
  | .issuerUrl => .ok { draft with issuerUrl := some value }
  | .stateDirectory => do
    return { draft with stateDirectory := some (← readPath setting value) }
  | .waitTimeout => do return { draft with waitTimeout := some (← readMillis setting value) }
  | .checkInterval => do
    return { draft with checkInterval := some (← readMillis setting value) }
  | .refreshEarlierBy => do
    return { draft with refreshEarlierBy := some (← readMillis setting value) }
  | .defaultBackoff => do
    return { draft with defaultBackoff := some (← readMillis setting value) }
  | .certificateDuration => .ok { draft with certificateDuration := some value }
  | .catalogueFile => do
    return { draft with catalogueFile := some (← readPath setting value) }
  | .logFormat => do return { draft with logFormat := some (← readLogFormat setting value) }

/-- Gives a setting that was not given before. -/
def give (draft : SettingsDraft) (setting : Setting) (value : String) :
    Except UsageFault SettingsDraft :=
  if draft.has setting then .error (.repeated setting) else draft.set setting value

/-- Sets from the environment what was not given. -/
def fill (draft : SettingsDraft) (environment : Environment) :
    List Setting → Except UsageFault SettingsDraft
  | [] => .ok draft
  | setting :: settings =>
    match draft.has setting, environment setting.environmentName with
    | false, some value => do (← draft.set setting value).fill environment settings
    | _, _ => draft.fill environment settings

/-- The settings, with the standard ones for those not given. -/
def finish (draft : SettingsDraft) : Settings where
  host := draft.host.getD Settings.standard.host
  port := draft.port.getD Settings.standard.port
  authToken := draft.authToken
  issuerUrl := draft.issuerUrl.getD Settings.standard.issuerUrl
  stateDirectory := draft.stateDirectory
  intervals := {
    waitTimeout := draft.waitTimeout.getD Intervals.standard.waitTimeout
    checkInterval := draft.checkInterval.getD Intervals.standard.checkInterval
    refreshEarlierBy := draft.refreshEarlierBy.getD Intervals.standard.refreshEarlierBy
    defaultBackoff := draft.defaultBackoff.getD Intervals.standard.defaultBackoff }
  certificateDuration := draft.certificateDuration
  catalogueFile := draft.catalogueFile
  logFormat := draft.logFormat.getD Settings.standard.logFormat

end SettingsDraft

end CertRenewal
