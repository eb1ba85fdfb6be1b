/-!
Digits and the numbers that they stand for.
-/

namespace CertRenewal.Digit

/-- The value of a digit in base 16 or below, in letters of either case. -/
def value? (char : Char) : Option Nat :=
  let code := char.toNat
  if 48 ≤ code ∧ code ≤ 57 then some (code - 48)
  else if 97 ≤ code ∧ code ≤ 102 then some (code - 87)
  else if 65 ≤ code ∧ code ≤ 70 then some (code - 55)
  else none

/-- The value of digits in a base, when they all are digits of it. -/
def number? (base : Nat) (digits : List Char) : Option Nat :=
  digits.foldlM (fun value char => do
    let digit ← value? char
    if digit < base then some (value * base + digit) else none) 0

end CertRenewal.Digit
