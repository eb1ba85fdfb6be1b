import CertRenewal.Json.Skip
import CertRenewal.Text.Quoted

/-!
Readers for the plain types and for records. A record may be written as an
object, where unknown fields are passed over and a repeated one is refused, or
as a list of its fields in order, where fields at the end may be absent if they
have a default.
-/

namespace CertRenewal.Json

/-- What stands in a message for a string found where none was expected. -/
def describeString (text : String) : String := "string " ++ Quoted.quote text

namespace Reader

/-- The fault of a value of another type than the expected one. Numbers, words
and strings are read first, and may turn out faulty themselves. -/
def wrongType {α : Type} (expected : String) : Reader α := do
  match ← peek with
  | none => failAtNext .expectedValue
  | some byte =>
    if byte = 110 then
      skipByte
      word [117, 108, 108]
      fail (.wrongType "null" expected)
    else if byte = 116 then
      skipByte
      word [114, 117, 101]
      fail (.wrongType "boolean `true`" expected)
    else if byte = 102 then
      skipByte
      word [97, 108, 115, 101]
      fail (.wrongType "boolean `false`" expected)
    else if byte = 45 then
      skipByte
      fail (.wrongType (← number true).describe expected)
    else if isDigit byte then
      fail (.wrongType (← number false).describe expected)
    else if byte = 34 then
      skipByte
      fail (.wrongType (describeString (← stringBody)) expected)
    else if byte = 91 then fail (.wrongType "sequence" expected)
    else if byte = 123 then fail (.wrongType "map" expected)
    else failAtNext .expectedValue

/-- Skips blanks and gives the first byte of the value that must follow. -/
def valueStart : Reader UInt8 := do
  match ← peekToken with
  | none => failAtNext .endInValue
  | some byte => return byte

def bool : Reader Bool := do
  let byte ← valueStart
  if byte = 116 then
    skipByte
    word [114, 117, 101]
    return true
  else if byte = 102 then
    skipByte
    word [97, 108, 115, 101]
    return false
  else wrongType "a boolean"

def string : Reader String := do
  let byte ← valueStart
  if byte = 34 then
    skipByte
    stringBody
  else wrongType "a string"

def unit : Reader Unit := do
  let byte ← valueStart
  if byte = 110 then
    skipByte
    word [117, 108, 108]
  else wrongType "unit"

/-- Reads any number; `expected` names the type wanted. -/
def anyNumber (expected : String) : Reader Number := do
  let byte ← valueStart
  if byte = 45 then
    skipByte
    number true
  else if isDigit byte then number false
  else wrongType expected

/-- Reads a whole number from 0 to a limit. -/
def natural (limit : Nat) (expected : String) : Reader Nat := do
  match ← anyNumber expected with
  | .natural value =>
    if value ≤ limit then return value
    else fail (.wrongValue (Number.natural value).describe expected)
  | .negative size => fail (.wrongValue (Number.negative size).describe expected)
  | .real value => fail (.wrongType (Number.real value).describe expected)

def uint64 : Reader Nat := natural Number.natLimit "u64"

def uint16 : Reader Nat := natural 65535 "u16"

/-- Reads a whole number of 64 bits with a sign. -/
def int64 : Reader Int := do
  match ← anyNumber "i64" with
  | .natural value =>
    if value ≤ 9223372036854775807 then return value
    else fail (.wrongValue (Number.natural value).describe "i64")
  | .negative size => return -size
  | .real value => fail (.wrongType (Number.real value).describe "i64")

def optional {α : Type} (reader : Reader α) : Reader (Option α) := do
  match ← peekToken with
  | some byte =>
    if byte = 110 then
      skipByte
      word [117, 108, 108]
      return none
    else return some (← reader)
  | none => return some (← reader)

def variantName {α : Type} (variants : List (String × α)) : Reader α := do
  let byte ← valueStart
  if byte = 34 then
    skipByte
    let name ← stringBody
    match variants.lookup name with
    | some value => return value
    | none => fail (.unknownVariant name (variants.map (·.1)))
  else wrongType "variant identifier"

def colon : Reader Unit := do
  match ← peekToken with
  | none => failAtNext .endInObject
  | some byte => if byte = 58 then skipByte else failAtNext .expectedColon

/-- Reads a name out of a fixed list, as a string or as the only key of an
object that holds a null. -/
def variant {α : Type} (variants : List (String × α)) : Reader α := do
  let byte ← valueStart
  if byte = 123 then
    skipByte
    let value ← variantName variants
    colon
    unit
    match ← peekToken with
    | none => fail .endInObject
    | some close =>
      if close = 125 then
        skipByte
        return value
      else fail .expectedValue
  else if byte = 34 then variantName variants
  else failAtNext .expectedValue

/-- Whether a list has another element; `first` holds until one was read. -/
def anotherElement (first : Bool) : Reader Bool := do
  match ← peekToken with
  | none => failAtNext .endInList
  | some byte =>
    if byte = 93 then return false
    else if first then return true
    else if byte = 44 then
      skipByte
      match ← peekToken with
      | none => failAtNext .endInValue
      | some after => if after = 93 then failAtNext .trailingComma else return true
    else failAtNext .expectedListEnd

/-- Whether an object has another key, whose quote then comes next. -/
def anotherKey (first : Bool) : Reader Bool := do
  match ← peekToken with
  | none => failAtNext .endInObject
  | some byte =>
    if byte = 125 then return false
    else if first then
      if byte = 34 then return true else failAtNext .keyNotString
    else if byte = 44 then
      skipByte
      match ← peekToken with
      | none => failAtNext .endInValue
      | some after =>
        if after = 34 then return true
        else if after = 125 then failAtNext .trailingComma
        else failAtNext .keyNotString
    else failAtNext .expectedObjectEnd

def endList : Reader Unit := do
  match ← peekToken with
  | none => failAtNext .endInList
  | some byte =>
    if byte = 93 then skipByte
    else if byte = 44 then
      skipByte
      if (← peekToken) = some 93 then failAtNext .trailingComma
      else failAtNext .trailingCharacters
    else failAtNext .trailingCharacters

def endObject : Reader Unit := do
  match ← peekToken with
  | none => failAtNext .endInObject
  | some byte =>
    if byte = 125 then skipByte
    else if byte = 44 then failAtNext .trailingComma
    else failAtNext .trailingCharacters

/-- Reads what is inside brackets and then the closing one. The end is looked
for even after a fault inside, and a fault without a place gets the one where
that search stopped. -/
def enclosed {α : Type} (inside : Reader α) (close : Reader Unit) : Reader α :=
  settled do
    skipByte
    let result ← attempt inside
    let closed ← attempt close
    let value ← resume result
    resume closed
    return value

def entriesFrom {σ : Type} (entry : σ → Reader σ) : Nat → Bool → σ → Reader σ
  | 0, _, state => return state
  | fuel + 1, first, state => do
    if ← anotherKey first then entriesFrom entry fuel false (← entry state)
    else return state

/-- Reads an object entry by entry; `entry` starts at the quote of a key. -/
def object {σ : Type} (entry : σ → Reader σ) (start : σ) : Reader σ :=
  enclosed (do entriesFrom entry ((← remaining) + 1) true start) endObject

def numericKey {α : Type} (reader : Reader α) : Reader α := do
  skipByte
  match ← peek with
  | none => fail .expectedNumericKey
  | some byte =>
    if isDigit byte ∨ byte = 45 then
      let value ← reader
      if (← peek) = some 34 then
        skipByte
        return value
      else failAtNext .expectedQuote
    else fail .expectedNumericKey

/-- Reads an object with numeric keys, from which `insert` builds a map. -/
def numberMap {κ α σ : Type} (key : Reader κ) (value : Reader α) (insert : κ → α → σ → σ)
    (empty : σ) : Reader σ := do
  let byte ← valueStart
  if byte = 123 then
    object (fun map => do
      let number ← numericKey key
      colon
      return insert number (← value) map) empty
  else wrongType "a map"

end Reader

/-- A field of a record that is being read into `σ`. -/
structure Field (σ : Type) where
  name : String
  isSet : σ → Bool
  read : σ → Reader σ
  /-- Whether the field may be absent from the end of a list. -/
  mayEnd : Bool

/-- How a record is written: its name in messages, its fields, and how what was
read becomes the value. -/
structure Shape (σ α : Type) where
  name : String
  blank : σ
  fields : List (Field σ)
  finish : σ → Except Problem α

namespace Shape

variable {σ α : Type}

def entry (shape : Shape σ α) (state : σ) : Reader σ := do
  Reader.skipByte
  let key ← Reader.stringBody
  match shape.fields.find? (·.name = key) with
  | some field =>
    if field.isSet state then Reader.refuse (.duplicateField key)
    else
      Reader.colon
      Reader.within (.field key) (field.read state)
  | none =>
    Reader.colon
    Reader.within (.field key) Reader.skipValue
    return state

def describe (shape : Shape σ α) : String := "struct " ++ shape.name

def describeLength (shape : Shape σ α) : String :=
  shape.describe ++ " with " ++ toString shape.fields.length ++
    (if shape.fields.length = 1 then " element" else " elements")

/-- Reads fields in order from a list; `index` counts those before. -/
def elements (shape : Shape σ α) : Nat → List (Field σ) → σ → Reader σ
  | _, [], state => return state
  | index, field :: fields, state => do
    if ← Reader.anotherElement (index = 0) then
      let state ← Reader.within (.element index) (field.read state)
      elements shape (index + 1) fields state
    else if field.mayEnd then elements shape (index + 1) fields state
    else Reader.refuse (.wrongLength index shape.describeLength)

def complete (shape : Shape σ α) (state : σ) : Reader α :=
  match shape.finish state with
  | .ok value => return value
  | .error problem => Reader.refuse problem

def read (shape : Shape σ α) : Reader α := do
  let byte ← Reader.valueStart
  if byte = 123 then
    Reader.enclosed
      (do
        let steps := (← Reader.remaining) + 1
        shape.complete (← Reader.entriesFrom shape.entry steps true shape.blank))
      Reader.endObject
  else if byte = 91 then
    Reader.enclosed
      (do shape.complete (← shape.elements 0 shape.fields shape.blank)) Reader.endList
  else Reader.wrongType shape.describe

end Shape

/-- Reads a whole text: one value, with nothing but blanks after it. -/
def readAll {α : Type} (reader : Reader α) (bytes : Bytes) : Except Fault α :=
  (do
    let value ← Reader.settled reader
    match ← Reader.peekToken with
    | none => return value
    | some _ => Reader.failAtNext .trailingCharacters : Reader α) (Cursor.start bytes) |>.1

end CertRenewal.Json
