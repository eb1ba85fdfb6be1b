import CertRenewal.Bytes
import CertRenewal.Text.Digit

/-!
Percent encoding. Each part of an address has its own set of characters that are
not written as they are; what lies beyond ASCII never is.
-/

namespace CertRenewal.Percent

def hexLetter (digit : Nat) : Char :=
  if digit < 10 then Char.ofNat (digit + 48) else Char.ofNat (digit + 55)

def encodeByte (byte : UInt8) : List Char :=
  ['%', hexLetter (byte.toNat / 16), hexLetter (byte.toNat % 16)]

def isBeyond (char : Char) : Bool := char.toNat < 32 || 126 < char.toNat

def inFragment (char : Char) : Bool :=
  isBeyond char || [' ', '"', '<', '>', '\x60'].contains char

def inQuery (char : Char) : Bool :=
  isBeyond char || [' ', '"', '#', '<', '>'].contains char

def inSpecialQuery (char : Char) : Bool := inQuery char || char = '\''

def inPath (char : Char) : Bool :=
  inFragment char || ['#', '?', '\x7b', '\x7d'].contains char

/-- Within a single segment the marks that separate or encode are ordinary. -/
def inSegment (char : Char) : Bool := inPath char || ['/', '%'].contains char

def inSpecialSegment (char : Char) : Bool := inSegment char || char = '\\'

def inUserinfo (char : Char) : Bool :=
  inPath char || ['/', ':', ';', '=', '@', '[', '\\', ']', '^', '|'].contains char

def encode (mustEncode : Char → Bool) (text : List Char) : List Char :=
  text.flatMap fun char =>
    if mustEncode char then (String.utf8EncodeChar char).flatMap encodeByte else [char]

/-- The bytes that a text stands for; a percent sign without two digits stands
for itself. -/
def decode : List Char → Bytes
  | '%' :: high :: low :: rest =>
    match Digit.value? high, Digit.value? low with
    | some first, some second => UInt8.ofNat (first * 16 + second) :: decode rest
    | _, _ => 37 :: decode (high :: low :: rest)
  | char :: rest => String.utf8EncodeChar char ++ decode rest
  | [] => []
termination_by text => text.length

end CertRenewal.Percent
