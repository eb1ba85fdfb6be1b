import CertRenewal.Json.Cursor

/-!
Strings of a JSON text. A string that is read has its escapes resolved and must
be well-formed UTF-8 in the end; a string that is passed over only has its
escapes checked for their form.
-/

namespace CertRenewal.Json

def hexDigit? (byte : UInt8) : Option Nat :=
  if 48 ≤ byte ∧ byte ≤ 57 then some (byte.toNat - 48)
  else if 97 ≤ byte ∧ byte ≤ 102 then some (byte.toNat - 87)
  else if 65 ≤ byte ∧ byte ≤ 70 then some (byte.toNat - 55)
  else none

def shortEscape? (letter : UInt8) : Option UInt8 :=
  if letter = 34 then some 34
  else if letter = 92 then some 92
  else if letter = 47 then some 47
  else if letter = 98 then some 8
  else if letter = 102 then some 12
  else if letter = 110 then some 10
  else if letter = 114 then some 13
  else if letter = 116 then some 9
  else none

def isHighSurrogate (unit : Nat) : Bool := 0xD800 ≤ unit && unit ≤ 0xDBFF

def isLowSurrogate (unit : Nat) : Bool := 0xDC00 ≤ unit && unit ≤ 0xDFFF

def joinSurrogates (high low : Nat) : Nat := (high - 0xD800) * 0x400 + (low - 0xDC00) + 0x10000

namespace Reader

def hexEscape : Reader Nat := do
  let cursor ← get
  match cursor.rest with
  | a :: b :: c :: d :: rest =>
    set (⟨rest, cursor.index + 4⟩ : Cursor)
    match hexDigit? a, hexDigit? b, hexDigit? c, hexDigit? d with
    | some a, some b, some c, some d => return ((a * 16 + b) * 16 + c) * 16 + d
    | _, _, _, _ => fail .badEscape
  | short =>
    set (⟨[], cursor.index + short.length⟩ : Cursor)
    fail .endInString

/-- Reads a byte that must follow the first half of a surrogate pair. -/
def pairByte (wanted : UInt8) : Reader Unit := do
  match ← next with
  | none => fail .endInString
  | some byte => if byte = wanted then pure () else fail .endOfHexEscape

/-- Reads an escape after its backslash, as the bytes that it stands for. -/
def escape : Reader Bytes := do
  match ← next with
  | none => fail .endInString
  | some letter =>
    if letter = 117 then
      let unit ← hexEscape
      if isLowSurrogate unit then fail .loneSurrogate
      else if isHighSurrogate unit then
        pairByte 92
        pairByte 117
        let low ← hexEscape
        if isLowSurrogate low then
          return String.utf8EncodeChar (Char.ofNat (joinSurrogates unit low))
        else fail .loneSurrogate
      else return String.utf8EncodeChar (Char.ofNat unit)
    else
      match shortEscape? letter with
      | some byte => return [byte]
      | none => fail .badEscape

/-- Reads up to the closing quote, with the bytes read so far in reverse. -/
def stringFrom : Nat → Bytes → Reader String
  | 0, _ => fail .endInString
  | fuel + 1, read => do
    match ← peek with
    | none => fail .endInString
    | some byte =>
      if byte = 34 then
        match Bytes.text? read.reverse with
        | some text =>
          skipByte
          return text
        | none => fail .badCodePoint
      else if byte = 92 then
        skipByte
        stringFrom fuel ((← escape).reverse ++ read)
      else if byte < 32 then
        skipByte
        fail .controlCharacter
      else
        skipByte
        stringFrom fuel (byte :: read)

def stringBody : Reader String := do stringFrom ((← get).rest.length + 1) []

def skipEscape : Reader Unit := do
  match ← next with
  | none => fail .endInString
  | some letter =>
    if letter = 117 then
      let _ ← hexEscape
    else if (shortEscape? letter).isNone then fail .badEscape

def skipStringFrom : Nat → Reader Unit
  | 0 => fail .endInString
  | fuel + 1 => do
    match ← peek with
    | none => fail .endInString
    | some byte =>
      if byte = 34 then skipByte
      else if byte = 92 then
        skipByte
        skipEscape
        skipStringFrom fuel
      else if byte < 32 then fail .controlCharacter
      else
        skipByte
        skipStringFrom fuel

def skipString : Reader Unit := do skipStringFrom ((← get).rest.length + 1)

end Reader

end CertRenewal.Json
