/-!
Lines of texts. A line ends at a line feed, and a carriage return before that
belongs to the end.
-/

namespace CertRenewal.Line

def isBlank (char : Char) : Bool :=
  let code := char.toNat
  9 ≤ code && code ≤ 13 || code = 32 || code = 0x85 || code = 0xA0 || code = 0x1680
    || 0x2000 ≤ code && code ≤ 0x200A || code = 0x2028 || code = 0x2029 || code = 0x202F
    || code = 0x205F || code = 0x3000

def trimStart (text : List Char) : List Char := text.dropWhile isBlank

def trimEnd (text : List Char) : List Char := (text.reverse.dropWhile isBlank).reverse

/-- A line without the carriage return at its end. -/
def withoutReturn (line : List Char) : List Char :=
  if line.getLast? = some '\r' then line.dropLast else line

def split (text : String) : List String :=
  (text.toList.splitOn '\n').map fun line => String.ofList (withoutReturn line)

def first (text : String) : String :=
  String.ofList (withoutReturn (text.toList.takeWhile (· ≠ '\n')))

/-- The first line of a text without blanks at its end. -/
def firstTrimmed (text : String) : String := String.ofList (trimEnd (first text).toList)

end CertRenewal.Line
