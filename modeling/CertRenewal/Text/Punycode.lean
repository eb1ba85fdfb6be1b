/-!
Labels of host names beyond ASCII, written in ASCII. The characters beyond ASCII
are given in ascending order by their distances, as numbers of variable length in
base 36 whose digits are bounded by a bias that adapts.
-/

namespace CertRenewal.Punycode

def digitChar (digit : Nat) : Char :=
  if digit < 26 then Char.ofNat (digit + 97) else Char.ofNat (digit + 22)

def digit? (char : Char) : Option Nat :=
  let code := char.toNat
  if 97 ≤ code ∧ code ≤ 122 then some (code - 97)
  else if 65 ≤ code ∧ code ≤ 90 then some (code - 65)
  else if 48 ≤ code ∧ code ≤ 57 then some (code - 22)
  else none

/-- The bound of a digit at a place that counts up by 36. -/
def threshold (place bias : Nat) : Nat :=
  if place ≤ bias then 1 else if bias + 26 ≤ place then 26 else place - bias

def adaptFrom : Nat → Nat → Nat → Nat
  | 0, delta, place => place + 36 * delta / (delta + 38)
  | fuel + 1, delta, place =>
    if 455 < delta then adaptFrom fuel (delta / 35) (place + 36)
    else place + 36 * delta / (delta + 38)

def adapt (delta count : Nat) (isFirst : Bool) : Nat :=
  let scaled := if isFirst then delta / 700 else delta / 2
  let spread := scaled + scaled / count
  adaptFrom spread spread 0

def writeNumber (bias : Nat) : Nat → Nat → Nat → List Char
  | 0, _, value => [digitChar value]
  | fuel + 1, place, value =>
    let bound := threshold place bias
    if value < bound then [digitChar value]
    else
      digitChar (bound + (value - bound) % (36 - bound))
        :: writeNumber bias fuel (place + 36) ((value - bound) / (36 - bound))

/-- What is carried along while a label is written. -/
structure Writer where
  written : List Char
  delta : Nat
  bias : Nat
  handled : Nat

def writeOne (basic code : Nat) (writer : Writer) (char : Char) : Writer :=
  if char.toNat < code then { writer with delta := writer.delta + 1 }
  else if char.toNat = code then
    { written := writer.written ++ writeNumber writer.bias (writer.delta + 1) 36 writer.delta
      delta := 0
      bias := adapt writer.delta (writer.handled + 1) (writer.handled = basic)
      handled := writer.handled + 1 }
  else writer

def writeAll (label : List Char) (basic : Nat) : List Nat → Nat → Writer → Writer
  | [], _, writer => writer
  | code :: codes, next, writer =>
    let moved := { writer with delta := writer.delta + (code - next) * (writer.handled + 1) }
    let written := label.foldl (writeOne basic code) moved
    writeAll label basic codes (code + 1) { written with delta := written.delta + 1 }

/-- The code points beyond ASCII, each once and in order. -/
def codesBeyond (label : List Char) : List Nat :=
  ((label.filter fun char => 128 ≤ char.toNat).map Char.toNat |>.mergeSort).eraseReps

/-- The ASCII form of a label, without the mark that says that it is one. -/
def encode (label : List Char) : List Char :=
  let basic := label.filter fun char => char.toNat < 128
  let start := if basic.isEmpty then [] else basic ++ ['-']
  (writeAll label basic.length (codesBeyond label) 128 ⟨start, 0, 72, basic.length⟩).written

/-- Reads a distance: its value and what follows it. -/
def readNumber (bias : Nat) : List Char → Nat → Nat → Nat → Option (Nat × List Char)
  | [], _, _, _ => none
  | char :: rest, place, weight, value => do
    let digit ← digit? char
    let bound := threshold place bias
    let value := value + digit * weight
    if digit < bound then some (value, rest)
    else readNumber bias rest (place + 36) (weight * (36 - bound)) value

def readFrom : Nat → List Char → Nat → Nat → Nat → List Char → Option (List Char)
  | 0, _, _, _, _, _ => none
  | _, [], _, _, _, label => some label
  | fuel + 1, text, position, code, bias, label => do
    let (distance, rest) ← readNumber bias text 36 1 0
    let count := label.length + 1
    let reached := position + distance
    let code := code + reached / count
    let place := reached % count
    if code < 128 ∨ ¬ Nat.isValidChar code then none
    else
      let label := label.take place ++ Char.ofNat code :: label.drop place
      let isFirst := position = 0 && count = label.length
      readFrom fuel rest (place + 1) code (adapt distance count isFirst) label

/-- The label that an ASCII form stands for. -/
def decode (text : List Char) : Option (List Char) :=
  let tail := (text.reverse.takeWhile (· ≠ '-')).reverse
  let basic := text.take (text.length - tail.length - 1)
  if tail.length = text.length then readFrom (text.length + 1) text 0 128 72 []
  else readFrom (tail.length + 1) tail 0 128 72 basic

end CertRenewal.Punycode
