import CertRenewal.Text.CharacterTable

/-!
Quoted texts as they appear in messages: between double quotes, with a
backslash before a quote or a backslash, short names for the usual controls, and
a code point in braces for whatever a reader could not see on its own.
-/

namespace CertRenewal.Quoted

/-- A code point in lower-case hexadecimal between braces. -/
def codePoint (char : Char) : List Char :=
  ['\\', 'u', '\x7b'] ++ Nat.toDigits 16 char.toNat ++ ['\x7d']

def isPlain (char : Char) : Bool :=
  let code := char.toNat
  if code < 0x7f then 0x20 ≤ code
  else !CharacterTable.extending.contains code
    && !CharacterTable.unprintable.contains code

def escape (char : Char) : List Char :=
  if char = '"' then ['\\', '"']
  else if char = '\\' then ['\\', '\\']
  else if char = '\n' then ['\\', 'n']
  else if char = '\r' then ['\\', 'r']
  else if char = '\t' then ['\\', 't']
  else if char.toNat = 0 then ['\\', '0']
  else if isPlain char then [char]
  else codePoint char

def quote (text : String) : String :=
  String.ofList ('"' :: text.toList.flatMap escape ++ ['"'])

end CertRenewal.Quoted
