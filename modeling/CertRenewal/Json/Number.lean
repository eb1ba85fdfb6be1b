import CertRenewal.Json.Cursor
import CertRenewal.Text.Decimal

/-!
Numbers as JSON writes them. A whole number that fits in 64 bits keeps its exact
value; every other number becomes the nearest binary one. Digits that no longer
fit in 64 bits are dropped and only counted, a number too large to be finite is
refused, and one too small becomes zero.
-/

namespace CertRenewal.Json

inductive Number
  /-- A whole number from 0 to 2^64 - 1. -/
  | natural (value : Nat)
  /-- The negative of a whole number from 1 to 2^63. -/
  | negative (size : Nat)
  | real (value : Binary64)
deriving DecidableEq, Repr

namespace Number

def natLimit : Nat := 18446744073709551615

def exponentLimit : Nat := 2147483647

/-- What stands in a message for a number found where none was expected. -/
def describe : Number → String
  | .natural value => "integer `" ++ toString value ++ "`"
  | .negative size => "integer `-" ++ toString size ++ "`"
  | .real value => "floating point `" ++ Binary64.write Binary64.plain value ++ "`"

/-- A whole number without fraction and exponent. -/
def whole (negated : Bool) (size : Nat) : Number :=
  if negated then
    if 1 ≤ size ∧ size ≤ 9223372036854775808 then .negative size
    else .real ((Binary64.ofDecimal? true size 0).getD (Binary64.zero true))
  else .natural size

end Number

namespace Reader

def digitValue (byte : UInt8) : Nat := byte.toNat - 48

/-- Reads digits onto a number for as long as it stays within a limit. -/
def digitsWithin (limit : Nat) : Nat → Nat → Reader Nat
  | 0, value => return value
  | fuel + 1, value => do
    match ← peek with
    | none => return value
    | some byte =>
      if isDigit byte ∧ value * 10 + digitValue byte ≤ limit then
        skipByte
        digitsWithin limit fuel (value * 10 + digitValue byte)
      else return value

/-- The number of bytes left, enough steps for any loop over them. -/
def remaining : Reader Nat := do return (← get).rest.length

/-- The binary value of `digits * 10 ^ exponent`. -/
def realNumber (negated : Bool) (digits : Nat) (exponent : Int) : Reader Number := do
  match Binary64.ofDecimal? negated digits exponent with
  | some value => return .real value
  | none => fail .numberOutOfRange

def isExponentMark (byte : UInt8) : Bool := byte = 101 || byte = 69

def exponentPart (negated : Bool) (digits : Nat) (start : Int) : Reader Number := do
  skipByte
  let sign ← peek
  if sign = some 43 ∨ sign = some 45 then skipByte
  let down := sign = some 45
  match ← next with
  | none => fail .endInValue
  | some first =>
    if !isDigit first then fail .badNumber
    else
      let size ← digitsWithin Number.exponentLimit (← remaining) (digitValue first)
      match ← peek with
      | some byte =>
        if isDigit byte then
          skipByte
          if digits ≠ 0 ∧ !down then fail .numberOutOfRange
          else
            let _ ← skipWhile isDigit
            return .real (Binary64.zero negated)
        else realNumber negated digits (if down then start - size else start + size)
      | none => realNumber negated digits (if down then start - size else start + size)

/-- What follows the digits of a number: an exponent or nothing. -/
def afterDigits (negated : Bool) (digits : Nat) (exponent : Int) : Reader Number := do
  match ← peek with
  | some byte =>
    if isExponentMark byte then exponentPart negated digits exponent
    else realNumber negated digits exponent
  | none => realNumber negated digits exponent

def fractionPart (negated : Bool) (digits : Nat) (exponent : Int) : Reader Number := do
  skipByte
  let before ← remaining
  let digits ← digitsWithin Number.natLimit before digits
  let taken := before - (← remaining)
  let dropped ← skipWhile isDigit
  if taken = 0 ∧ dropped = 0 then
    match ← peek with
    | some _ => failAtNext .badNumber
    | none => failAtNext .endInValue
  else afterDigits negated digits (exponent - taken)

def number (negated : Bool) : Reader Number := do
  match ← next with
  | none => fail .endInValue
  | some first =>
    if !isDigit first then fail .badNumber
    else if first = 48 then
      match ← peek with
      | some byte =>
        if isDigit byte then failAtNext .badNumber
        else if byte = 46 then fractionPart negated 0 0
        else if isExponentMark byte then exponentPart negated 0 0
        else return Number.whole negated 0
      | none => return Number.whole negated 0
    else
      let digits ← digitsWithin Number.natLimit (← remaining) (digitValue first)
      let dropped ← skipWhile isDigit
      match ← peek with
      | some byte =>
        if byte = 46 then fractionPart negated digits dropped
        else if dropped ≠ 0 ∨ isExponentMark byte then afterDigits negated digits dropped
        else return Number.whole negated digits
      | none =>
        if dropped ≠ 0 then afterDigits negated digits dropped
        else return Number.whole negated digits

def skipExponent : Reader Unit := do
  skipByte
  let sign ← peek
  if sign = some 43 ∨ sign = some 45 then skipByte
  match ← next with
  | none => fail .badNumber
  | some first =>
    if !isDigit first then fail .badNumber
    else
      let _ ← skipWhile isDigit

/-- Passes over a number whose sign has been read; any size is accepted. -/
def skipNumber : Reader Unit := do
  match ← next with
  | none => fail .badNumber
  | some first =>
    if !isDigit first then fail .badNumber
    else
      let more ← if first = 48 then pure 0 else skipWhile isDigit
      match ← peek with
      | none => pure ()
      | some byte =>
        if first = 48 ∧ more = 0 ∧ isDigit byte then failAtNext .badNumber
        else if byte = 46 then
          skipByte
          if (← skipWhile isDigit) = 0 then failAtNext .badNumber
          else
            match ← peek with
            | some mark => if isExponentMark mark then skipExponent
            | none => pure ()
        else if isExponentMark byte then skipExponent

end Reader

end CertRenewal.Json
