import CertRenewal.Url.Percent
import CertRenewal.Url.Scheme

/-!
Paths as lists of segments. Segments of dots lead back or nowhere, but never out
of a drive of a file system, whose name is a letter and a colon.
-/

namespace CertRenewal

/-- The segments of a path, each of them encoded. -/
abbrev Segments := List (List Char)

namespace Segments

def write (list : Segments) : List Char := list.flatMap ('/' :: ·)

def isDouble (segment : List Char) : Bool :=
  ["..", ".%2e", "%2e.", "%2e%2e"].contains (String.ofList (segment.map Char.toLower))

def isSingle (segment : List Char) : Bool :=
  [".", "%2e"].contains (String.ofList (segment.map Char.toLower))

/-- Whether a text begins with the name of a drive, which may have a bar in place
of its colon. -/
def beginsWithDrive : List Char → Bool
  | letter :: mark :: rest =>
    letter.isAlpha && (mark = ':' || mark = '|') && (rest.isEmpty || rest.head? = some '\\')
  | _ => false

def isDrive (segment : List Char) : Bool := segment.length = 2 && beginsWithDrive segment

def normalDrive (segment : List Char) : List Char := segment.take 1 ++ [':']

def back (list : Segments) : Segments :=
  if list.getLast?.any beginsWithDrive then list else list.dropLast

/-- Adds a segment as it was read. One that leads back takes the last away, and
one that leads nowhere adds nothing, but at the end both leave an empty one. -/
def add (isFile : Bool) (list : Segments) (segment : List Char) (isLast : Bool) : Segments :=
  let ending := if isLast then [[]] else []
  if isDouble segment then back list ++ ending
  else if isSingle segment then list ++ ending
  else if isFile && list.isEmpty && isDrive segment then [normalDrive segment]
  else list ++ [segment]

/-- Reads segments up to a query or a fragment; gives back the segments and the
rest. -/
def readFrom (scheme : List Char) : Nat → List Char → Segments → Segments × List Char
  | 0, text, list => (list, text)
  | fuel + 1, text, list =>
    let special := Scheme.isSpecial scheme
    let segment := Percent.encode Percent.inPath (text.takeWhile (!Scheme.ends special ·))
    match text.dropWhile (!Scheme.ends special ·) with
    | [] => (add (Scheme.isFile scheme) list segment true, [])
    | mark :: rest =>
      if Scheme.isSlash special mark then
        readFrom scheme fuel rest (add (Scheme.isFile scheme) list segment false)
      else (add (Scheme.isFile scheme) list segment true, mark :: rest)

/-- Reads segments, with an empty one before a slash at the beginning. -/
def readAll (scheme : List Char) (text : List Char) : Segments × List Char :=
  readFrom scheme (text.length + 1) text []

/-- Reads a path. One of a special scheme has at least an empty segment. -/
def read (scheme : List Char) (text : List Char) : Segments × List Char :=
  let special := Scheme.isSpecial scheme
  match text with
  | [] => if special then ([[]], []) else ([], [])
  | first :: rest =>
    if Scheme.isSlash special first then readAll scheme rest
    else if !special && (first = '?' || first = '#') then ([], text)
    else readAll scheme text

/-- The path of a file without the empty segments it begins with. -/
def dropEmptyStart (list : Segments) : Segments :=
  match list.dropWhile List.isEmpty with
  | [] => [[]]
  | kept => kept

/-- An empty segment at the end of a path is where the next one goes. -/
def dropEmptyEnd (list : Segments) : Segments :=
  if list.length ≠ 1 && list.getLast? = some [] then list.dropLast else list

/-- Adds one segment to a path, whatever it holds. A segment of one dot or two
adds nothing. Tabs and line ends are dropped, and a segment that becomes dots in
this way acts as dots do. -/
def push (scheme : List Char) (list : Segments) (text : String) : Segments :=
  if text = "." || text = ".." then list
  else
    let base := if list = [[]] then [] else list
    let kept := text.toList.filter fun char => char ≠ '\t' && char ≠ '\n' && char ≠ '\r'
    let set :=
      if Scheme.isSpecial scheme then Percent.inSpecialSegment else Percent.inSegment
    add (Scheme.isFile scheme) base (Percent.encode set kept) true

end Segments

end CertRenewal
