import CertRenewal.Refresh.Request

/-!
The settings of the program, and what they have to meet before it starts.
-/

namespace CertRenewal

abbrev Environment := String → Option String

inductive LogFormat
  | text
  | json
deriving DecidableEq, Repr

namespace LogFormat

def name : LogFormat → String
  | text => "text"
  | json => "json"

def ofName? (name : String) : Option LogFormat :=
  if name = "text" then some text else if name = "json" then some json else none

theorem ofName?_name (format : LogFormat) : ofName? format.name = some format := by
  cases format <;> decide

end LogFormat

structure Settings where
  host : String
  port : UInt16
  /-- The token that requests have to carry, if there is one. -/
  authToken : Option String
  issuerUrl : String
  /-- The directory where keys and certificate are kept, when it is named. -/
  stateDirectory : Option String
  intervals : Intervals
  /-- For how long certificates are to be valid, in the words of the host. -/
  certificateDuration : Option String
  /-- A file with a catalogue that is laid over the one built in. -/
  catalogueFile : Option String
  logFormat : LogFormat
deriving DecidableEq, Repr

/-- Why the program does not start with its settings. -/
inductive SettingsFault
  | zeroWaitTimeout
  | zeroCheckInterval
  | noWebAddress (url : String)
deriving DecidableEq, Repr

def SettingsFault.message : SettingsFault → String
  | .zeroWaitTimeout => "--wait-timeout-ms must be greater than zero"
  | .zeroCheckInterval => "--check-interval-ms must be greater than zero"
  | .noWebAddress url => "--issuer-url must be an http(s) URL: " ++ url

namespace Settings

def standard : Settings where
  host := "127.0.0.1"
  port := 9810
  authToken := none
  issuerUrl := "https://vpn-api.proton.me"
  stateDirectory := none
  intervals := .standard
  certificateDuration := none
  catalogueFile := none
  logFormat := .text

def isWebAddress (url : String) : Bool :=
  "http://".toList.isPrefixOf url.toList || "https://".toList.isPrefixOf url.toList

def validate (settings : Settings) : Except SettingsFault Unit :=
  if settings.intervals.waitTimeout = 0 then .error .zeroWaitTimeout
  else if settings.intervals.checkInterval = 0 then .error .zeroCheckInterval
  else if !isWebAddress settings.issuerUrl then .error (.noWebAddress settings.issuerUrl)
  else .ok ()

/-- Whether the margin is shorter than the time between checks, so that no check
may fall into it. -/
def hasShortMargin (settings : Settings) : Bool :=
  settings.intervals.refreshEarlierBy < settings.intervals.checkInterval

def join (directory below : String) : String :=
  if directory.isEmpty || directory.toList.getLast? = some '/' then directory ++ below
  else directory ++ "/" ++ below

/-- Where keys and certificate are kept: in the directory that is named, or else
in one below the places that the environment names for state. -/
def stateDirectoryIn (settings : Settings) (environment : Environment) : String :=
  match settings.stateDirectory, environment "XDG_STATE_HOME", environment "HOME" with
  | some directory, _, _ => directory
  | none, some states, _ => join states "certkeeper"
  | none, none, some home => join home ".local/state/certkeeper"
  | none, none, none => ".certkeeper"

end Settings

end CertRenewal
