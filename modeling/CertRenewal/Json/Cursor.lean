import CertRenewal.Json.Fault

/-!
The reading position in a JSON text and the small steps every reader is made of.
A reader gives back a value or a fault, and in both cases where it stopped: what
encloses a faulty value may still look at the bytes after it before the fault is
given its place.
-/

namespace CertRenewal.Json

/-- What is left to read and how many bytes were read. -/
structure Cursor where
  rest : Bytes
  index : Nat
deriving DecidableEq, Repr

abbrev Reader (α : Type) := ExceptT Fault (StateM Cursor) α

namespace Cursor

def start (bytes : Bytes) : Cursor := ⟨bytes, 0⟩

/-- Moves past one byte, if there is one. -/
def advance (cursor : Cursor) : Cursor :=
  match cursor.rest with
  | [] => cursor
  | _ :: rest => ⟨rest, cursor.index + 1⟩

/-- Where a fault about the next byte lies: on that byte, or at the end. -/
def nextIndex (cursor : Cursor) : Nat :=
  match cursor.rest with
  | [] => cursor.index
  | _ :: _ => cursor.index + 1

end Cursor

def isBlank (byte : UInt8) : Bool := byte = 32 || byte = 10 || byte = 9 || byte = 13

def isDigit (byte : UInt8) : Bool := 48 ≤ byte && byte ≤ 57

namespace Reader

def fail {α : Type} (problem : Problem) : Reader α := do
  throw ⟨problem, some (.behind (← get).index), []⟩

def failAtNext {α : Type} (problem : Problem) : Reader α := do
  throw ⟨problem, some (.behind (← get).nextIndex), []⟩

/-- A fault about the meaning of a value, to be placed by the reader around it. -/
def refuse {α : Type} (problem : Problem) : Reader α := throw ⟨problem, none, []⟩

def refuseInWords {α : Type} (words : String) : Reader α := throw (Fault.refusal words)

def peek : Reader (Option UInt8) := do return (← get).rest.head?

def skipByte : Reader Unit := modify Cursor.advance

def next : Reader (Option UInt8) := do
  let byte ← peek
  skipByte
  return byte

/-- Reads bytes while they satisfy the test, and counts them. -/
def skipWhile (test : UInt8 → Bool) : Reader Nat := do
  let cursor ← get
  let taken := cursor.rest.takeWhile test
  set (⟨cursor.rest.dropWhile test, cursor.index + taken.length⟩ : Cursor)
  return taken.length

def peekToken : Reader (Option UInt8) := do
  let _ ← skipWhile isBlank
  peek

def attempt {α : Type} (reader : Reader α) : Reader (Except Fault α) :=
  fun cursor => let (result, after) := reader cursor; (.ok result, after)

def resume {α : Type} : Except Fault α → Reader α
  | .ok value => pure value
  | .error fault => throw fault

/-- A fault without a place is placed where the reader stopped. -/
def settled {α : Type} (reader : Reader α) : Reader α :=
  fun cursor =>
    match reader cursor with
    | (.ok value, after) => (.ok value, after)
    | (.error fault, after) => (.error (fault.settle after.index), after)

/-- A fault inside a part of the value is reported with the way to that part. -/
def within {α : Type} (step : Inside) (reader : Reader α) : Reader α :=
  fun cursor =>
    match reader cursor with
    | (.ok value, after) => (.ok value, after)
    | (.error fault, after) => (.error (fault.within step), after)

def word : List UInt8 → Reader Unit
  | [] => pure ()
  | letter :: letters => do
    match ← next with
    | none => fail .endInValue
    | some byte => if byte = letter then word letters else fail .expectedWord

end Reader

end CertRenewal.Json
