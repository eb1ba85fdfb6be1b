import CertRenewal.Text.CharacterTable
import CertRenewal.Text.Direction
import CertRenewal.Text.Joining
import CertRenewal.Text.Punycode
import CertRenewal.Url.Domain.Folding

/-!
Domain names. A name is folded, so that names that look alike are the same, and
its labels beyond ASCII are written in ASCII behind a mark of four characters.
Labels that are written so already have to be what folding would have left. In a
name that has parts from right to left the order of every label has to be clear.
-/

namespace CertRenewal.Domain

def isForbiddenInHost (char : Char) : Bool :=
  char.toNat = 0 || ['\t', '\n', '\r', ' ', '#', '/', ':', '<', '>', '?', '@', '[', '\\', ']',
    '^', '|'].contains char

/-- Characters that no domain name may hold. -/
def isForbidden (char : Char) : Bool :=
  isForbiddenInHost char || char.toNat < 32 || char = '%' || char.toNat = 127

def isAscii (text : List Char) : Bool := text.all fun char => char.toNat < 128

def splitDots (text : List Char) : List (List Char) := text.splitOn '.'

/-- What a label in ASCII begins with that stands for one beyond ASCII. -/
def mark : List Char := "xn--".toList

/-- The longest label beyond ASCII that is written in ASCII. -/
def longestLabel : Nat := 1000

/-- The longest ASCII form, without its mark, that is read. -/
def longestEncoded : Nat := 2000

/-- The name without differences that do not count. In ASCII these are only those
of letters in either case. -/
def fold? (text : List Char) : Option (List Char) :=
  if isAscii text then some (text.map Char.toLower)
  else (Folding.ofText? text).map Composition.compose

/-- The label that an ASCII form stands for: one beyond ASCII that folding leaves
as it is. -/
def ofEncoded? (encoded : List Char) : Option (List Char) := do
  if longestEncoded < encoded.length then none
  else
    let label ← Punycode.decode encoded
    if !isAscii label && label.all Folding.isStable && Composition.compose label = label
        && Punycode.encode label = encoded then some label
    else none

/-- Whether a label may be used as it is, with letters of any script. It neither
begins with a combining mark nor holds a joiner where none belongs, and does not
pretend to be an ASCII form. -/
def isUsable (label : List Char) : Bool :=
  !label.any isForbidden
    && (isAscii label
      || !(label.head?.any fun char => CharacterTable.marks.contains char.toNat)
        && Joining.areInPlace [] label && label.length ≤ longestLabel
        && !mark.isPrefixOf label)

def readLabel? (folded : List Char) : Option (List Char) :=
  (if mark.isPrefixOf folded then ofEncoded? (folded.drop mark.length) else some folded).filter
    isUsable

/-- The form of a label in ASCII. -/
def writeLabel (label : List Char) : List Char :=
  if isAscii label then label else mark ++ Punycode.encode label

/-- Whether the order of labels on a line is clear where that is in question. -/
def isClear (labels : List (List Char)) : Bool :=
  let directions := labels.map fun label => label.map Direction.ofChar
  !directions.any (·.any Direction.turns) || directions.all Direction.isClear

/-- The form of a name in ASCII. -/
def ascii? (text : List Char) : Option (List Char) := do
  let folded ← fold? text
  let labels ← (splitDots folded).mapM readLabel?
  if labels.all isAscii || isClear labels then
    some (['.'].intercalate (labels.map writeLabel))
  else none

end CertRenewal.Domain
