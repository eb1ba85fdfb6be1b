import CertRenewal.Settings.Setting
import CertRenewal.Text.Terminal
import CertRenewal.Text.Whole

/-!
What can be wrong with the words of a command line and with the values in the
environment. A message holds what a terminal shows of the faulty word, so that
the word cannot change how the rest is shown.
-/

namespace CertRenewal

/-- Why a value is not a number that is wanted. -/
inductive NumberFault
  | notWhole (fault : Whole.Fault)
  | outOfRange (value : Int) (limit : Nat)
deriving DecidableEq, Repr

def NumberFault.message : NumberFault → String
  | .notWhole fault => fault.message
  | .outOfRange value limit => toString value ++ " is not in 0..=" ++ toString limit

/-- Why no settings came out of a command line and its environment. -/
inductive UsageFault
  /-- A word that has no place where it stands. -/
  | unknownWord (word : String)
  /-- A flag that takes no value has one. -/
  | needlessValue (flag value : String)
  /-- A setting without a value, or with an empty one where that is none. -/
  | missingValue (setting : Setting)
  | repeated (setting : Setting)
  | badNumber (setting : Setting) (value : String) (fault : NumberFault)
  /-- A value that is none of those to choose from. -/
  | badChoice (setting : Setting) (value : String)
deriving DecidableEq, Repr

namespace UsageFault

def badValue (setting : Setting) (value : String) : String :=
  "invalid value '" ++ Terminal.shown value ++ "' for '" ++ setting.label ++ "'"

def description : UsageFault → String
  | unknownWord word => "unexpected argument '" ++ Terminal.shown word ++ "' found"
  | needlessValue flag value =>
    "unexpected value '" ++ Terminal.shown value ++ "' for '" ++ flag
      ++ "' found; no more were expected"
  | missingValue setting =>
    "a value is required for '" ++ setting.label ++ "' but none was supplied"
  | repeated setting => "the argument '" ++ setting.label ++ "' cannot be used multiple times"
  | badNumber setting value fault => badValue setting value ++ ": " ++ fault.message
  | badChoice setting value => badValue setting value

def message (fault : UsageFault) : String := "error: " ++ fault.description

end UsageFault

end CertRenewal
