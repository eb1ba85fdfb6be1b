/-!
What can be set. Each setting has a word for the command line, made of small
letters and hyphens, from which the name of its value and the name of its
environment variable follow.
-/

namespace CertRenewal

inductive Setting
  | host
  | port
  | authToken
  | issuerUrl
  | stateDirectory
  | waitTimeout
  | checkInterval
  | refreshEarlierBy
  | defaultBackoff
  | certificateDuration
  | catalogueFile
  | logFormat
deriving DecidableEq, Repr

namespace Setting

/-- All settings, in the order in which they are looked up. -/
def all : List Setting :=
  [host, port, authToken, issuerUrl, stateDirectory, waitTimeout, checkInterval,
    refreshEarlierBy, defaultBackoff, certificateDuration, catalogueFile, logFormat]

theorem mem_all (setting : Setting) : setting ∈ all := by
  cases setting <;> decide

def word : Setting → String
  | host => "host"
  | port => "port"
  | authToken => "auth-token"
  | issuerUrl => "issuer-url"
  | stateDirectory => "state-dir"
  | waitTimeout => "wait-timeout-ms"
  | checkInterval => "check-interval-ms"
  | refreshEarlierBy => "refresh-earlier-by-ms"
  | defaultBackoff => "default-backoff-ms"
  | certificateDuration => "certificate-duration"
  | catalogueFile => "classification-table"
  | logFormat => "log-format"

def ofWord? (word : String) : Option Setting := all.find? fun setting => setting.word = word

theorem ofWord?_word (setting : Setting) : ofWord? setting.word = some setting := by
  cases setting <;> decide

def placeholder (setting : Setting) : String :=
  String.ofList (setting.word.toList.map fun char => if char = '-' then '_' else char.toUpper)

def label (setting : Setting) : String :=
  "--" ++ setting.word ++ " <" ++ setting.placeholder ++ ">"

def environmentName (setting : Setting) : String := "CERTKEEPER_" ++ setting.placeholder

end Setting

end CertRenewal
