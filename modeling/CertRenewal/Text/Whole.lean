/-!
Whole numbers as people type them: digits with an optional plus sign, and a
minus sign where negative numbers are meant. The first thing wrong with a text is
what is reported.
-/

namespace CertRenewal.Whole

/-- Why a text is no whole number of the kind that is wanted. -/
inductive Fault
  | empty
  | badDigit
  | tooLarge
  | tooSmall
deriving DecidableEq, Repr

def Fault.message : Fault → String
  | .empty => "cannot parse integer from empty string"
  | .badDigit => "invalid digit found in string"
  | .tooLarge => "number too large to fit in target type"
  | .tooSmall => "number too small to fit in target type"

/-- Reads digits onto a number up to a limit. -/
def readDigits (limit : Nat) (tooFar : Fault) : List Char → Nat → Except Fault Nat
  | [], value => .ok value
  | char :: rest, value =>
    if '0' ≤ char ∧ char ≤ '9' then
      let grown := value * 10 + (char.toNat - 48)
      if grown ≤ limit then readDigits limit tooFar rest grown else .error tooFar
    else .error .badDigit

/-- Reads a number of at least one digit. -/
def readSome (limit : Nat) (tooFar : Fault) (digits : List Char) : Except Fault Nat :=
  if digits.isEmpty then .error .badDigit else readDigits limit tooFar digits 0

/-- Reads a whole number from 0 to a limit. -/
def natural (limit : Nat) (text : String) : Except Fault Nat :=
  match text.toList with
  | [] => .error .empty
  | '+' :: digits => readSome limit .tooLarge digits
  | digits => readSome limit .tooLarge digits

/-- Reads a whole number of 64 bits with a sign. -/
def integer (text : String) : Except Fault Int :=
  match text.toList with
  | [] => .error .empty
  | '-' :: digits => (readSome 9223372036854775808 .tooSmall digits).map fun size => -size
  | '+' :: digits => (readSome 9223372036854775807 .tooLarge digits).map Int.ofNat
  | digits => (readSome 9223372036854775807 .tooLarge digits).map Int.ofNat

end CertRenewal.Whole
