import CertRenewal.Bytes

/-!
Base64 with the standard alphabet. Padding is required, and the bits that a
padded group leaves over must be zero, so every byte string has exactly one
written form.
-/

namespace CertRenewal.Base64

/-- The character for a value below 64. -/
def letter (value : Nat) : Char :=
  if value < 26 then Char.ofNat (value + 65)
  else if value < 52 then Char.ofNat (value + 71)
  else if value < 62 then Char.ofNat (value - 4)
  else if value = 62 then '+'
  else '/'

def value? (char : Char) : Option Nat :=
  let code := char.toNat
  if 65 ≤ code ∧ code ≤ 90 then some (code - 65)
  else if 97 ≤ code ∧ code ≤ 122 then some (code - 71)
  else if 48 ≤ code ∧ code ≤ 57 then some (code + 4)
  else if char = '+' then some 62
  else if char = '/' then some 63
  else none

/-- Three bytes become four characters; a last group of one or two bytes is
padded with equals signs. -/
def encode : Bytes → List Char
  | [] => []
  | [a] =>
    let group := a.toNat * 16
    [letter (group / 64), letter (group % 64), '=', '=']
  | [a, b] =>
    let group := (a.toNat * 256 + b.toNat) * 4
    [letter (group / 4096), letter (group / 64 % 64), letter (group % 64), '=']
  | a :: b :: c :: rest =>
    let group := (a.toNat * 256 + b.toNat) * 256 + c.toNat
    letter (group / 262144) :: letter (group / 4096 % 64) :: letter (group / 64 % 64)
      :: letter (group % 64) :: encode rest

def decode : List Char → Option Bytes
  | [] => some []
  | [a, b, '=', '='] => do
    let group := (← value? a) * 64 + (← value? b)
    if group % 16 = 0 then some [UInt8.ofNat (group / 16)] else none
  | [a, b, c, '='] => do
    let group := ((← value? a) * 64 + (← value? b)) * 64 + (← value? c)
    if group % 4 = 0 then
      some [UInt8.ofNat (group / 1024), UInt8.ofNat (group / 4 % 256)]
    else none
  | a :: b :: c :: d :: rest => do
    let group := (((← value? a) * 64 + (← value? b)) * 64 + (← value? c)) * 64 + (← value? d)
    let bytes ← decode rest
    some (UInt8.ofNat (group / 65536) :: UInt8.ofNat (group / 256 % 256)
      :: UInt8.ofNat (group % 256) :: bytes)
  | _ => none

def encodeText (bytes : Bytes) : String := String.ofList (encode bytes)

def decodeText (text : String) : Option Bytes := decode text.toList

end CertRenewal.Base64
