import CertRenewal.Text.Digit

/-!
Properties of code points. A set is kept as the ascending list of places where it
begins and ends, a map as the list of runs on which it does not change. Both are
written down as words of hexadecimal lengths.
-/

namespace CertRenewal

namespace CodePoints

/-- The words of a text with blanks or the ends of lines between them. -/
def words (text : String) : List (List Char) :=
  (text.toList.splitOnP Char.isWhitespace).filter fun word => !word.isEmpty

def number (digits : List Char) : Nat := (Digit.number? 16 digits).getD 0

/-- How many entries of an ascending array have a key up to a bound, when those
before `low` have and those from `high` on have not. -/
def countUpTo {α : Type} (key : α → Nat) (array : Array α) (bound low high : Nat) : Nat :=
  if low < high then
    let middle := (low + high) / 2
    match array[middle]? with
    | some entry =>
      if key entry ≤ bound then countUpTo key array bound (middle + 1) high
      else countUpTo key array bound low middle
    | none => low
  else low
termination_by high - low

end CodePoints

/-- A set of code points, by the ascending list of those that differ from the one
before in being in the set. -/
structure CodePointSet where
  switches : Array Nat

namespace CodePointSet

open CodePoints

/-- The set whose switches have the given distances, the first one from zero. -/
def ofDistances (text : String) : CodePointSet :=
  ⟨((words text).foldl (fun (switches, last) word =>
    let switch := last + number word
    (switches.push switch, switch)) ((#[] : Array Nat), 0)).1⟩

/-- A code is in the set when an odd number of switches are at or below it. -/
def contains (set : CodePointSet) (code : Nat) : Bool :=
  countUpTo id set.switches code 0 set.switches.size % 2 = 1

end CodePointSet

/-- A property with a value for each code point. -/
structure CodePointMap (α : Type) where
  /-- Where each run begins, and its value. -/
  runs : Array (Nat × α)

namespace CodePointMap

open CodePoints

variable {α : Type}

/-- The map whose runs are given in order, each as a value and perhaps a length
after an asterisk. -/
def ofRuns (read : List Char → α) (text : String) : CodePointMap α :=
  ⟨((words text).foldl (fun (runs, start) word =>
    let value := word.takeWhile (· ≠ '*')
    let length :=
      match word.dropWhile (· ≠ '*') with
      | [] => 1
      | _ :: digits => number digits
    (runs.push (start, read value), start + length)) ((#[] : Array (Nat × α)), 0)).1⟩

/-- The run that a code lies in: where it begins and its value. -/
def run? (map : CodePointMap α) (code : Nat) : Option (Nat × α) :=
  map.runs[countUpTo Prod.fst map.runs code 0 map.runs.size - 1]?

def getD (map : CodePointMap α) (code : Nat) (fallback : α) : α :=
  ((map.run? code).map (·.2)).getD fallback

end CodePointMap

end CertRenewal
