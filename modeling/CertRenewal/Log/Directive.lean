import CertRenewal.Log
import CertRenewal.Text.CharacterTable
import CertRenewal.Text.Pattern
import CertRenewal.Text.Whole

/-!
Directives of a log filter. In full one reads
`target[span\x7bfield,…\x7d]=level`, and each of its parts may be left out. Blanks
around a directive are passed over when its marks are looked for, but its parts
are cut at the places found out of the directive with the blanks before it.
-/

namespace CertRenewal

namespace Verbosity

/-- A verbosity as a number from 0 to 5, or by name in letters of either case. -/
def ofText? (text : String) : Option Verbosity :=
  match Whole.natural 5 text with
  | .ok 0 => some none
  | .ok number => (LogLevel.all.find? fun level => level.rank = number).map some
  | .error _ =>
    if text.toUpper = "OFF" then some none
    else (LogLevel.all.find? fun level => level.name = text.toUpper).map some

/-- What a verbosity behind an equals sign says; nothing there is all. -/
def ofTextOrAll? (text : String) : Option Verbosity :=
  if text.isEmpty then some (some .trace) else ofText? text

end Verbosity

structure LogField where
  name : String
  hasValue : Bool
deriving DecidableEq, Repr

structure LogDirective where
  /-- What the targets that it speaks of begin with; without it all are meant. -/
  target : Option String
  /-- The span that it is about, if it is about one. -/
  span : Option String
  fields : List LogField
  verbosity : Verbosity
deriving DecidableEq, Repr

namespace LogField

/-- Whether a text is a number with a plus sign, which is no pattern but a value. -/
def isPlusNumber (text : List Char) : Bool :=
  match text with
  | '+' :: number =>
    let digits := number.takeWhile Char.isDigit
    let rest := number.dropWhile Char.isDigit
    let isExponent := fun (text : List Char) =>
      match text with
      | [] => true
      | mark :: '-' :: power => mark.toLower = 'e' && !power.isEmpty && power.all Char.isDigit
      | mark :: '+' :: power => mark.toLower = 'e' && !power.isEmpty && power.all Char.isDigit
      | mark :: power => mark.toLower = 'e' && !power.isEmpty && power.all Char.isDigit
    if ["inf", "infinity", "nan"].contains (String.ofList (number.map Char.toLower)) then true
    else
      match rest with
      | '.' :: places =>
        (!digits.isEmpty || places.head?.any Char.isDigit)
          && isExponent (places.dropWhile Char.isDigit)
      | _ => !digits.isEmpty && isExponent rest
  | _ => false

/-- Reads a name, or a name and a value. A value is a number or a pattern, and
what follows a second equals sign is passed over. -/
def ofText? (text : List Char) : Option LogField :=
  match text.splitOn '=' with
  | name :: value :: _ =>
    if isPlusNumber value || Pattern.isValid value then some ⟨String.ofList name, true⟩ else none
  | _ => if text.isEmpty then none else some ⟨String.ofList text, false⟩

end LogField

namespace LogDirective

def blank : LogDirective := ⟨none, none, [], some .trace⟩

/-- Where reading stands; most stages know where their part began. -/
inductive Stage
  | start
  | levelOrTarget (start : Nat)
  | span (start : Nat)
  | field (start : Nat)
  | fields
  | whole
  | level (start : Nat)
deriving DecidableEq, Repr

/-- What lies between two places of a text, counted in bytes. -/
def between? (text : Bytes) (start stop : Nat) : Option String :=
  Bytes.text? ((text.take stop).drop start)

def behind? (text : Bytes) (start : Nat) : Option String := Bytes.text? (text.drop start)

def mayBegin (char : Char) : Bool :=
  ['-', ':', '_'].contains char || CharacterTable.alphanumeric.contains char.toNat

def addField? (directive : LogDirective) (text : String) : Option LogDirective := do
  if text.isEmpty then none
  else some { directive with fields := directive.fields ++ [← LogField.ofText? text.toList] }

def step (text : Bytes) (directive : LogDirective) (place : Nat) (char : Char) :
    Stage → Option (Stage × LogDirective)
  | .start =>
    if char = '[' then some (.span (place + 1), directive)
    else if mayBegin char then some (.levelOrTarget place, directive)
    else none
  | .levelOrTarget start =>
    if char = '=' then do
      some (.level (place + 1), { directive with target := some (← between? text start place) })
    else if char = '[' then do
      some (.span (place + 1), { directive with target := some (← between? text start place) })
    else some (.levelOrTarget start, directive)
  | .span start =>
    if char = ']' then do
      some (.whole, { directive with span := some (← between? text start place) })
    else if char = '\x7b' then do
      let name ← between? text start place
      some (.field (place + 1),
        { directive with span := if name.isEmpty then none else some name })
    else some (.span start, directive)
  | .field start =>
    if char = '\x7d' then do
      some (.fields, ← directive.addField? (← between? text start place))
    else some (.field start, directive)
  | .fields => if char = ']' then some (.whole, directive) else none
  | .whole => if char = '=' then some (.level (place + 1), directive) else none
  | .level start => some (.level start, directive)

def readFrom (text : Bytes) : List Char → Nat → Stage → LogDirective →
    Option (Stage × LogDirective)
  | [], _, stage, directive => some (stage, directive)
  | char :: rest, place, stage, directive => do
    let (stage, directive) ← step text directive place char stage
    readFrom text rest (place + char.utf8Size) stage directive

/-- Completes a directive with its last part. What is no level is a target. -/
def finish (text : Bytes) (directive : LogDirective) : Stage → Option LogDirective
  | .levelOrTarget start => do
    let word ← behind? text start
    match Verbosity.ofText? word with
    | some verbosity => some { directive with verbosity }
    | none => some { directive with target := some word }
  | .level start => do
    some { directive with verbosity := ← Verbosity.ofTextOrAll? (← behind? text start) }
  | .whole => some directive
  | _ => none

def ofText? (text : List Char) : Option LogDirective := do
  let bytes := Bytes.ofText (String.ofList text)
  let trimmed := Line.trimEnd (Line.trimStart text)
  let (stage, directive) ← readFrom bytes trimmed 0 .start blank
  finish bytes directive stage

/-- Whether a directive decides about single entries; one about a span or about
values decides only about what happens inside of spans. -/
def isStatic (directive : LogDirective) : Bool :=
  directive.span.isNone && directive.fields.all fun field => !field.hasValue

def speaksOf (directive : LogDirective) (entry : LogEntry) : Bool :=
  (match directive.target with
    | none => true
    | some start => start.toList.isPrefixOf entry.target.toList)
    && directive.fields.all fun field => entry.fields.contains field.name

/-- How much of the target a directive names, none at all being least. -/
def reach (directive : LogDirective) : Nat :=
  match directive.target with
  | none => 0
  | some start => start.utf8ByteSize + 1

def isSame (first second : LogDirective) : Bool :=
  first.target = second.target
    && first.fields.map LogField.name = second.fields.map LogField.name

/-- Whether a directive counts before another one: it names more of the target or
more fields, or else comes later in the order of its words. -/
def precedes (first second : LogDirective) : Bool :=
  let names := fun (directive : LogDirective) => directive.fields.map LogField.name
  if first.reach ≠ second.reach then second.reach < first.reach
  else if first.fields.length ≠ second.fields.length then
    second.fields.length < first.fields.length
  else if first.target ≠ second.target then
    second.target.getD "" < first.target.getD ""
  else names second < names first

end LogDirective

end CertRenewal
