import CertRenewal.Url.Authority
import CertRenewal.Url.Segments

/-!
Addresses of resources: how they are read, written and extended by segments of a
path. Blanks around an address are dropped, and so are tabs and line ends in it.
-/

namespace CertRenewal

inductive UrlPath
  | plain (text : List Char)
  | segments (list : Segments)
deriving DecidableEq, Repr

/-- An address in its parts, each of them encoded. -/
structure Url where
  scheme : List Char
  authority : Option Authority
  path : UrlPath
  query : Option (List Char)
  fragment : Option (List Char)
deriving DecidableEq, Repr

namespace Url

def writePath (hasAuthority : Bool) : UrlPath → List Char
  | .plain text => text
  | .segments list =>
    match list with
    | [] :: _ :: _ => (if hasAuthority then [] else ['/', '.']) ++ Segments.write list
    | _ => Segments.write list

def writePart (mark : Char) : Option (List Char) → List Char
  | none => []
  | some part => mark :: part

def write (url : Url) : String :=
  String.ofList (url.scheme ++ ':'
    :: (match url.authority with
      | none => []
      | some authority => authority.write)
    ++ writePath url.authority.isSome url.path
    ++ writePart '?' url.query ++ writePart '#' url.fragment)

/-- Reads what may follow a path: a query, and a fragment at the end. -/
def readTail (scheme : List Char) (text : List Char) : Option (List Char) × Option (List Char) :=
  let fragmentOf : List Char → Option (List Char) := fun rest =>
    match rest with
    | '#' :: fragment => some (Percent.encode Percent.inFragment fragment)
    | _ => none
  match text with
  | '?' :: rest =>
    let set := if Scheme.isSpecial scheme then Percent.inSpecialQuery else Percent.inQuery
    (some (Percent.encode set (rest.takeWhile (· ≠ '#'))),
      fragmentOf (rest.dropWhile (· ≠ '#')))
  | rest => (none, fragmentOf rest)

/-- Reads an authority, then a path and what follows it. -/
def readFromAuthority (scheme : List Char) (text : List Char) : Except UrlFault Url := do
  let (authority, rest) ← Authority.read scheme text
  let (list, tail) := Segments.read scheme rest
  let (query, fragment) := readTail scheme tail
  return ⟨scheme, some authority, .segments list, query, fragment⟩

/-- The address of a file from its segments and what follows them. A path on a
drive is on no host. -/
def ofFile (scheme : List Char) (authority : Authority) (path : Segments × List Char) : Url :=
  let (list, tail) := path
  let (query, fragment) := readTail scheme tail
  let host := if list.head?.any Segments.isDrive then Authority.nameless else authority
  ⟨scheme, some host, .segments (Segments.dropEmptyStart list), query, fragment⟩

/-- Reads the address of a file. A drive in place of a host begins the path, but
behind an empty host or a host that is not named the slash counts as a segment,
and what follows it is not taken for a drive. -/
def readFile (scheme : List Char) (text : List Char) : Except UrlFault Url :=
  match text with
  | first :: second :: rest =>
    if Scheme.isSlash true first && Scheme.isSlash true second then
      if Segments.isDrive (rest.takeWhile (!Scheme.ends true ·)) then
        .ok (ofFile scheme .nameless (Segments.readAll scheme rest))
      else do
        let (authority, path) ← Authority.readFileHost rest
        return ofFile scheme authority
          (if authority.host.isEmpty then Segments.readAll scheme path
            else Segments.read scheme path)
    else .ok (ofFile scheme .nameless (Segments.read scheme text))
  | _ => .ok (ofFile scheme .nameless (Segments.read scheme text))

def readLocal (scheme : List Char) (text : List Char) : Url :=
  if text.head? = some '/' then
    let (list, tail) := Segments.read scheme text
    let (query, fragment) := readTail scheme tail
    ⟨scheme, none, .segments list, query, fragment⟩
  else
    let ends := fun char => char = '?' || char = '#'
    let (query, fragment) := readTail scheme (text.dropWhile (!ends ·))
    ⟨scheme, none, .plain (Percent.encode Percent.isBeyond (text.takeWhile (!ends ·))), query,
      fragment⟩

/-- Takes blanks and controls away at both ends, and tabs and line ends
everywhere. -/
def clean (text : List Char) : List Char :=
  let isBlank := fun (char : Char) => char.toNat ≤ 32
  let trimmed := ((text.dropWhile isBlank).reverse.dropWhile isBlank).reverse
  trimmed.filter fun char => char ≠ '\t' && char ≠ '\n' && char ≠ '\r'

def read (text : String) : Except UrlFault Url :=
  match Scheme.read (clean text.toList) with
  | none => .error .noScheme
  | some (scheme, rest) =>
    if Scheme.isCommon scheme then
      readFromAuthority scheme (rest.dropWhile (Scheme.isSlash true))
    else if Scheme.isFile scheme then readFile scheme rest
    else
      match rest with
      | '/' :: '/' :: more => readFromAuthority scheme more
      | _ => .ok (readLocal scheme rest)

/-- The address with segments added to its path, if it has one of segments. -/
def extend (url : Url) (added : List String) : Option Url :=
  match url.path with
  | .plain _ => none
  | .segments list =>
    some { url with
      path := .segments (added.foldl (Segments.push url.scheme) (Segments.dropEmptyEnd list)) }

def hasHost (url : Url) : Bool :=
  match url.authority with
  | some authority => !authority.host.isEmpty
  | none => false

/-- The address without the claim of a name. -/
def withoutClaim (url : Url) : Url :=
  { url with
    authority := url.authority.map fun authority =>
      { authority with username := [], password := none } }

end Url

end CertRenewal
