/-!
Byte strings and their reading as UTF-8 text.
`Bytes.text?` accepts exactly the well-formed encodings: the shortest form of
each character, no surrogates, nothing above U+10FFFF. `Bytes.lossyText` reads
anything, with one replacement character for each longest part that could have
begun a character.
-/

namespace CertRenewal

abbrev Bytes := List UInt8

namespace Bytes

def ofText (text : String) : Bytes := text.toList.flatMap String.utf8EncodeChar

def isTail (byte : UInt8) : Bool := 0x80 ≤ byte && byte ≤ 0xBF

/-- The number of bytes in a character that begins with this byte, and the
least and greatest value its second byte may take. -/
def lead? (byte : UInt8) : Option (Nat × UInt8 × UInt8) :=
  if byte ≤ 0x7F then some (1, 0x80, 0xBF)
  else if byte < 0xC2 then none
  else if byte ≤ 0xDF then some (2, 0x80, 0xBF)
  else if byte = 0xE0 then some (3, 0xA0, 0xBF)
  else if byte = 0xED then some (3, 0x80, 0x9F)
  else if byte ≤ 0xEF then some (3, 0x80, 0xBF)
  else if byte = 0xF0 then some (4, 0x90, 0xBF)
  else if byte ≤ 0xF3 then some (4, 0x80, 0xBF)
  else if byte = 0xF4 then some (4, 0x80, 0x8F)
  else none

def joinTail (code : Nat) (byte : UInt8) : Nat := code * 64 + byte.toNat % 64

/-- The first character of a byte string and what follows it; otherwise how
many bytes could have begun a character, at least one. -/
def nextChar : Bytes → Option (Except Nat (Char × Bytes))
  | [] => none
  | first :: rest =>
    match lead? first with
    | none => some (.error 1)
    | some (size, low, high) =>
      if size = 1 then some (.ok (Char.ofNat first.toNat, rest))
      else
        match rest with
        | [] => some (.error 1)
        | second :: rest₂ =>
          if ! (low ≤ second && second ≤ high) then some (.error 1)
          else if size = 2 then
            some (.ok (Char.ofNat (joinTail (first.toNat % 32) second), rest₂))
          else
            match rest₂ with
            | [] => some (.error 2)
            | third :: rest₃ =>
              if ! isTail third then some (.error 2)
              else if size = 3 then
                some (.ok (Char.ofNat (joinTail (joinTail (first.toNat % 16) second) third), rest₃))
              else
                match rest₃ with
                | [] => some (.error 3)
                | fourth :: rest₄ =>
                  if ! isTail fourth then some (.error 3)
                  else
                    let code :=
                      joinTail (joinTail (joinTail (first.toNat % 8) second) third) fourth
                    some (.ok (Char.ofNat code, rest₄))

/-- The characters of a byte string, each step taking at least one byte. -/
def readChars? : Nat → Bytes → List Char → Option (List Char)
  | 0, _, read => some read.reverse
  | fuel + 1, bytes, read =>
    match nextChar bytes with
    | none => some read.reverse
    | some (.error _) => none
    | some (.ok (char, rest)) => readChars? fuel rest (char :: read)

/-- The text that a byte string encodes, when it is well-formed. -/
def text? (bytes : Bytes) : Option String :=
  (readChars? bytes.length bytes []).map String.ofList

/-- The characters of any byte string, broken parts replaced. -/
def repairChars : Nat → Bytes → List Char → List Char
  | 0, _, read => read.reverse
  | fuel + 1, bytes, read =>
    match nextChar bytes with
    | none => read.reverse
    | some (.error broken) => repairChars fuel (bytes.drop broken) ('\uFFFD' :: read)
    | some (.ok (char, rest)) => repairChars fuel rest (char :: read)

/-- The text of any byte string, with U+FFFD for what is not well-formed. -/
def lossyText (bytes : Bytes) : String :=
  String.ofList (repairChars bytes.length bytes [])

end Bytes

end CertRenewal
