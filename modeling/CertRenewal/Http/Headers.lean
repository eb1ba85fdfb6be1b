import CertRenewal.Bytes

/-!
The headers of a message, in the order in which they came. Names are compared
without regard to the case of ASCII letters.
-/

namespace CertRenewal

structure Header where
  name : String
  value : Bytes
deriving DecidableEq, Repr

namespace Header

/-- An ASCII capital in its small form. -/
def lower (char : Char) : Char :=
  if 'A' ≤ char ∧ char ≤ 'Z' then Char.ofNat (char.toNat + 32) else char

def lowerName (name : String) : List Char := name.toList.map lower

def first? (headers : List Header) (name : String) : Option Bytes :=
  (headers.find? fun header => lowerName header.name = lowerName name).map (·.value)

/-- Whether a byte may stand in a value that is read as text: a tab or a visible
character of ASCII. -/
def isVisible (byte : UInt8) : Bool := byte = 9 || (32 ≤ byte && byte < 127)

/-- The first value under a name, when it can be read as text. -/
def firstVisible? (headers : List Header) (name : String) : Option Bytes :=
  (first? headers name).filter fun value => value.all isVisible

end Header

end CertRenewal
