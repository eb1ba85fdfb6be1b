import CertRenewal.Bytes
import CertRenewal.Text.Whole

/-!
What can be wrong with a JSON text, and how it is worded. A fault knows how many
bytes had been read when it arose; the message turns that count into a line and
a column, both in bytes and the line counted from one. Faults about the meaning
of a value arise without a place and get one from the reader around them, unless
their own words end with a place.
-/

namespace CertRenewal.Json

inductive Problem
  | endInValue
  | endInObject
  | endInList
  | endInString
  | expectedColon
  | expectedListEnd
  | expectedObjectEnd
  | expectedWord
  | expectedValue
  | expectedQuote
  | expectedNumericKey
  | keyNotString
  | badEscape
  | badNumber
  | numberOutOfRange
  | badCodePoint
  | controlCharacter
  | loneSurrogate
  | endOfHexEscape
  | trailingComma
  | trailingCharacters
  /-- A value of one type where another was expected. -/
  | wrongType (found expected : String)
  /-- A value of the right type but outside its range. -/
  | wrongValue (found expected : String)
  | wrongLength (found : Nat) (expected : String)
  | unknownVariant (found : String) (known : List String)
  | missingField (name : String)
  | duplicateField (name : String)
  /-- A value that its own type refuses, in the words of that type. -/
  | refused (reason : String)
deriving DecidableEq, Repr

/-- Whether the text is good JSON that means nothing acceptable. -/
def Problem.isAboutMeaning : Problem → Bool
  | .wrongType .. | .wrongValue .. | .wrongLength .. | .unknownVariant .. | .missingField _
  | .duplicateField _ | .refused _ => true
  | _ => false

/-- The known names of a variant, as a message lists them. -/
def listVariants : List String → String
  | [] => "there are no variants"
  | [only] => "expected `" ++ only ++ "`"
  | [first, second] => "expected `" ++ first ++ "` or `" ++ second ++ "`"
  | many => "expected one of " ++ ", ".intercalate (many.map fun name => "`" ++ name ++ "`")

def Problem.message : Problem → String
  | .endInValue => "EOF while parsing a value"
  | .endInObject => "EOF while parsing an object"
  | .endInList => "EOF while parsing a list"
  | .endInString => "EOF while parsing a string"
  | .expectedColon => "expected `:`"
  | .expectedListEnd => "expected `,` or `]`"
  | .expectedObjectEnd => "expected `,` or `\x7d`"
  | .expectedWord => "expected ident"
  | .expectedValue => "expected value"
  | .expectedQuote => "expected `\"`"
  | .expectedNumericKey => "invalid value: expected key to be a number in quotes"
  | .keyNotString => "key must be a string"
  | .badEscape => "invalid escape"
  | .badNumber => "invalid number"
  | .numberOutOfRange => "number out of range"
  | .badCodePoint => "invalid unicode code point"
  | .controlCharacter => "control character (\\u0000-\\u001F) found while parsing a string"
  | .loneSurrogate => "lone leading surrogate in hex escape"
  | .endOfHexEscape => "unexpected end of hex escape"
  | .trailingComma => "trailing comma"
  | .trailingCharacters => "trailing characters"
  | .wrongType found expected => "invalid type: " ++ found ++ ", expected " ++ expected
  | .wrongValue found expected => "invalid value: " ++ found ++ ", expected " ++ expected
  | .wrongLength found expected =>
    "invalid length " ++ toString found ++ ", expected " ++ expected
  | .unknownVariant found known =>
    "unknown variant `" ++ found ++ "`, " ++ listVariants known
  | .missingField name => "missing field `" ++ name ++ "`"
  | .duplicateField name => "duplicate field `" ++ name ++ "`"
  | .refused reason => reason

/-- One step from a value to a value inside it. -/
inductive Inside
  | field (name : String)
  | element (index : Nat)
deriving DecidableEq, Repr

inductive Place
  | behind (count : Nat)
  | told (line column : Nat)
deriving DecidableEq, Repr

/-- Line and column after so many bytes: the line counts from one, the column is
the number of bytes read on it. -/
def positionAfter (bytes : Bytes) (count : Nat) : Nat × Nat :=
  (bytes.take count).foldl
    (fun (place : Nat × Nat) (byte : UInt8) =>
      if byte = 10 then (place.1 + 1, 0) else (place.1, place.2 + 1)) (1, 0)

def Place.position (bytes : Bytes) : Place → Nat × Nat
  | .behind count => positionAfter bytes count
  | .told line column => (line, column)

/-- What stands before and after the last occurrence of a mark. -/
def splitAtLast (mark : List Char) : List Char → Option (List Char × List Char)
  | [] => none
  | char :: rest =>
    match splitAtLast mark rest with
    | some (before, after) => some (char :: before, after)
    | none =>
      if mark.isPrefixOf (char :: rest) then some ([], (char :: rest).drop mark.length) else none

/-- Words that end with a line and a column, apart from these. Both are numbers of
64 bits. -/
def splitPlace? (words : List Char) : Option (List Char × Nat × Nat) := do
  let limit := 18446744073709551615
  let (before, after) ← splitAtLast " at line ".toList words
  let mark := " column ".toList
  let rest := after.dropWhile (·.isDigit)
  if !mark.isPrefixOf rest then none
  else
    let line ← (Whole.readSome limit .tooLarge (after.takeWhile (·.isDigit))).toOption
    let column ← (Whole.readSome limit .tooLarge (rest.drop mark.length)).toOption
    some (before, line, column)

/-- A problem, where it arose once that is known, and the way from the whole
value to the one it arose in. -/
structure Fault where
  problem : Problem
  place : Option Place
  path : List Inside
deriving DecidableEq, Repr

namespace Fault

/-- The fault of a value that is refused in some words. A place at their end is
that of the fault; lines count from one, so that line zero is no place. -/
def refusal (words : String) : Fault :=
  match splitPlace? words.toList with
  | none => ⟨.refused words, none, []⟩
  | some (before, line, column) =>
    ⟨.refused (String.ofList before), if line = 0 then none else some (.told line column), []⟩

/-- Gives a fault without a place the one where the reader stands. -/
def settle (fault : Fault) (index : Nat) : Fault :=
  match fault.place with
  | some _ => fault
  | none => { fault with place := some (.behind index) }

def within (fault : Fault) (step : Inside) : Fault := { fault with path := step :: fault.path }

def message (bytes : Bytes) (fault : Fault) : String :=
  let (line, column) := (fault.place.getD (.behind 0)).position bytes
  fault.problem.message ++ " at line " ++ toString line ++ " column " ++ toString column

/-- The way to the faulty value: fields by name, elements by bracketed number. -/
def pathText : List Inside → String
  | [] => ""
  | .field name :: [] => name
  | .field name :: .field next :: rest => name ++ "." ++ pathText (.field next :: rest)
  | .field name :: rest => name ++ pathText rest
  | .element index :: [] => "[" ++ toString index ++ "]"
  | .element index :: .field next :: rest =>
    "[" ++ toString index ++ "]." ++ pathText (.field next :: rest)
  | .element index :: rest => "[" ++ toString index ++ "]" ++ pathText rest

/-- The message led by the way to the faulty value, when it lies inside. -/
def messageWithPath (bytes : Bytes) (fault : Fault) : String :=
  match fault.path with
  | [] => fault.message bytes
  | path => pathText path ++ ": " ++ fault.message bytes

end Fault

end CertRenewal.Json
