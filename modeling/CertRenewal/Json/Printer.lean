import CertRenewal.Bytes

/-!
JSON values as the program writes them, on one line or indented by two spaces.
Members keep the order in which they are given.
-/

namespace CertRenewal.Json

inductive Tree
  | null
  | bool (value : Bool)
  | number (value : Int)
  | text (value : String)
  | object (members : List (String × Tree))

namespace Tree

/-- A member that is left out when it has no value. -/
def member? (name : String) (value : Option Tree) : List (String × Tree) :=
  match value with
  | none => []
  | some tree => [(name, tree)]

def hexLetter (digit : Nat) : Char :=
  if digit < 10 then Char.ofNat (digit + 48) else Char.ofNat (digit + 87)

/-- A character inside quotes: controls, the quote and the backslash are
escaped. -/
def escape (char : Char) : List Char :=
  if char = '"' then ['\\', '"']
  else if char = '\\' then ['\\', '\\']
  else if char.toNat = 8 then ['\\', 'b']
  else if char.toNat = 9 then ['\\', 't']
  else if char.toNat = 10 then ['\\', 'n']
  else if char.toNat = 12 then ['\\', 'f']
  else if char.toNat = 13 then ['\\', 'r']
  else if char.toNat < 32 then
    ['\\', 'u', '0', '0', hexLetter (char.toNat / 16), hexLetter (char.toNat % 16)]
  else [char]

def quoted (text : String) : List Char := '"' :: text.toList.flatMap escape ++ ['"']

mutual

/-- The value on one line, without blanks. -/
def compactChars : Tree → List Char
  | null => "null".toList
  | bool value => (if value then "true" else "false").toList
  | number value => (toString value).toList
  | text value => quoted value
  | object members => '\x7b' :: compactMembers members ++ ['\x7d']

def compactMembers : List (String × Tree) → List Char
  | [] => []
  | [only] => compactMember only
  | first :: second :: rest => compactMember first ++ ',' :: compactMembers (second :: rest)

def compactMember : String × Tree → List Char
  | (name, value) => quoted name ++ ':' :: compactChars value

end

def newLine (depth : Nat) : List Char := '\n' :: List.replicate (2 * depth) ' '

mutual

def prettyChars : Nat → Tree → List Char
  | _, null => "null".toList
  | _, bool value => (if value then "true" else "false").toList
  | _, number value => (toString value).toList
  | _, text value => quoted value
  | _, object [] => ['\x7b', '\x7d']
  | depth, object (first :: rest) =>
    '\x7b' :: prettyMembers (depth + 1) (first :: rest) ++ newLine depth ++ ['\x7d']

def prettyMembers : Nat → List (String × Tree) → List Char
  | _, [] => []
  | depth, [only] => newLine depth ++ prettyMember depth only
  | depth, first :: second :: rest =>
    newLine depth ++ prettyMember depth first ++ ',' :: prettyMembers depth (second :: rest)

def prettyMember : Nat → String × Tree → List Char
  | depth, (name, value) => quoted name ++ ':' :: ' ' :: prettyChars depth value

end

def compact (tree : Tree) : String := String.ofList tree.compactChars

def pretty (tree : Tree) : String := String.ofList (tree.prettyChars 0)

end Tree

end CertRenewal.Json
