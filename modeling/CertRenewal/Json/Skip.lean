import CertRenewal.Json.Number
import CertRenewal.Json.String

/-!
Passing over a value of any shape while checking its syntax. The lists and
objects that are open are kept on a stack of their own, so no depth of nesting
is refused.
-/

namespace CertRenewal.Json

/-- A list or an object that is open around the reading position. -/
inductive Frame
  | list
  | object
deriving DecidableEq, Repr

namespace Frame

def endProblem : Frame → Problem
  | .list => .endInList
  | .object => .endInObject

def closeProblem : Frame → Problem
  | .list => .expectedListEnd
  | .object => .expectedObjectEnd

def closing : Frame → UInt8
  | .list => 93
  | .object => 125

end Frame

namespace Reader

/-- Passes over a value without parts, or into the first list or object of one
with parts. -/
def skipHead : Reader (Option Frame) := do
  match ← peekToken with
  | none => failAtNext .endInValue
  | some byte =>
    if byte = 91 then
      skipByte
      return some .list
    else if byte = 123 then
      skipByte
      return some .object
    else if byte = 110 then
      skipByte
      word [117, 108, 108]
      return none
    else if byte = 116 then
      skipByte
      word [114, 117, 101]
      return none
    else if byte = 102 then
      skipByte
      word [97, 108, 115, 101]
      return none
    else if byte = 45 then
      skipByte
      skipNumber
      return none
    else if isDigit byte then
      skipNumber
      return none
    else if byte = 34 then
      skipByte
      skipString
      return none
    else failAtNext .expectedValue

/-- Passes over the ends of open lists and objects up to where another value
follows; gives back what is still open then. A comma is only taken after a
value. -/
def skipEnds : Bool → List Frame → Reader (List Frame)
  | _, [] => return []
  | afterValue, frame :: frames => do
    match ← peekToken with
    | none => failAtNext frame.endProblem
    | some byte =>
      if byte = 44 ∧ afterValue then
        skipByte
        return frame :: frames
      else if byte = frame.closing then
        skipByte
        skipEnds true frames
      else if afterValue then failAtNext frame.closeProblem
      else return frame :: frames

def skipKey : Reader Unit := do
  match ← peekToken with
  | none => failAtNext .endInObject
  | some byte =>
    if byte = 34 then
      skipByte
      skipString
      match ← peekToken with
      | none => failAtNext .endInObject
      | some colon => if colon = 58 then skipByte else failAtNext .expectedColon
    else failAtNext .keyNotString

/-- Passes over values until nothing is open any more. -/
def skipOpen : Nat → List Frame → Reader Unit
  | 0, _ => fail .endInValue
  | fuel + 1, frames => do
    let still ←
      match ← skipHead with
      | some frame => skipEnds false (frame :: frames)
      | none => skipEnds true frames
    match still with
    | [] => return ()
    | .object :: _ =>
      skipKey
      skipOpen fuel still
    | .list :: _ => skipOpen fuel still

def skipValue : Reader Unit := do skipOpen ((← get).rest.length + 1) []

end Reader

end CertRenewal.Json
