/-!
Schemes of addresses, in small letters, and what depends on them.
-/

namespace CertRenewal.Scheme

def isCommon (scheme : List Char) : Bool :=
  ["http", "https", "ws", "wss", "ftp"].contains (String.ofList scheme)

def isFile (scheme : List Char) : Bool := scheme = "file".toList

def isSpecial (scheme : List Char) : Bool := isCommon scheme || isFile scheme

def standardPort (scheme : List Char) : Option Nat :=
  match String.ofList scheme with
  | "http" => some 80
  | "ws" => some 80
  | "https" => some 443
  | "wss" => some 443
  | "ftp" => some 21
  | _ => none

def isSlash (special : Bool) (char : Char) : Bool := char = '/' || special && char = '\\'

/-- Whether a character ends an authority or a segment of a path. -/
def ends (special : Bool) (char : Char) : Bool :=
  isSlash special char || char = '?' || char = '#'

/-- The scheme of an address in small letters, and what follows its colon. -/
def read (text : List Char) : Option (List Char × List Char) :=
  let isName := fun (char : Char) => char.isAlphanum || ['+', '-', '.'].contains char
  match text with
  | [] => none
  | first :: _ =>
    if first.isAlpha then
      match text.dropWhile isName with
      | ':' :: rest => some ((text.takeWhile isName).map Char.toLower, rest)
      | _ => none
    else none

end CertRenewal.Scheme
