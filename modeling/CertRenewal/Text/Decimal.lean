/-!
Binary floating-point numbers of 53 significant bits as exact values, and the
shortest decimal text that reads back as one of them. A value is `m * 2 ^ e`
with a sign apart; arithmetic is done on natural numbers and rounds to nearest,
ties to the even neighbour.
-/

namespace CertRenewal

/-- A number in binary64 format: `mantissa * 2 ^ exponent`, with a sign of its
own so that a negative zero exists. -/
structure Binary64 where
  negative : Bool
  mantissa : Nat
  exponent : Int
deriving DecidableEq, Repr

namespace Binary64

def twoTo (exponent : Nat) : Nat := Nat.pow 2 exponent

def tenTo (exponent : Nat) : Nat := Nat.pow 10 exponent

def bitLength (n : Nat) : Nat := if n = 0 then 0 else n.log2 + 1

/-- The quotient rounded to the nearest whole number, ties to even. -/
def roundDiv (num den : Nat) : Nat :=
  let quotient := num / den
  let rest := num % den
  if rest * 2 < den then quotient
  else if den < rest * 2 then quotient + 1
  else if quotient % 2 = 0 then quotient else quotient + 1

/-- Numerator and denominator of `num / den / 2 ^ exponent`. -/
def scaled (num den : Nat) (exponent : Int) : Nat × Nat :=
  if 0 ≤ exponent then (num, den * twoTo exponent.toNat)
  else (num * twoTo (-exponent).toNat, den)

/-- The value nearest to a fraction, as mantissa and exponent; none when it
would be infinite. The least exponent is that of the subnormal numbers. -/
def nearest? (num den : Nat) : Option (Nat × Int) :=
  if num = 0 then some (0, 0)
  else
    let guess : Int := (bitLength num : Int) - bitLength den - 53
    let (n, d) := scaled num den guess
    let exponent := if n / d < twoTo 52 then guess - 1
      else if twoTo 53 ≤ n / d then guess + 1 else guess
    let exponent := if exponent < -1074 then -1074 else exponent
    let (n, d) := scaled num den exponent
    let mantissa := roundDiv n d
    let (mantissa, exponent) :=
      if mantissa = twoTo 53 then (twoTo 52, exponent + 1) else (mantissa, exponent)
    if 971 < exponent then none else some (mantissa, exponent)

def fraction (mantissa : Nat) (exponent : Int) : Nat × Nat :=
  if 0 ≤ exponent then (mantissa * twoTo exponent.toNat, 1)
  else (mantissa, twoTo (-exponent).toNat)

def mul? (a b : Nat × Int) : Option (Nat × Int) :=
  let (an, ad) := fraction a.1 a.2
  let (bn, bd) := fraction b.1 b.2
  nearest? (an * bn) (ad * bd)

/-- The quotient of two magnitudes, rounded; the divisor is not zero. -/
def div? (a b : Nat × Int) : Option (Nat × Int) :=
  let (an, ad) := fraction a.1 a.2
  let (bn, bd) := fraction b.1 b.2
  nearest? (an * bd) (ad * bn)

def powerOfTen (exponent : Nat) : Nat × Int := (nearest? (tenTo exponent) 1).getD (0, 0)

/-- Scales a magnitude by a power of ten in binary64 arithmetic: one product or
quotient for exponents up to 308, and steps of 308 below that. Above it any
value but zero is out of range. -/
def scaleByTen? (fuel : Nat) (value : Nat × Int) (exponent : Int) : Option (Nat × Int) :=
  match fuel with
  | 0 => some (0, 0)
  | fuel + 1 =>
    if exponent.natAbs ≤ 308 then
      if 0 ≤ exponent then mul? value (powerOfTen exponent.natAbs)
      else div? value (powerOfTen exponent.natAbs)
    else if value.1 = 0 then some (0, 0)
    else if 0 ≤ exponent then none
    else (div? value (powerOfTen 308)).bind fun smaller => scaleByTen? fuel smaller (exponent + 308)

/-- The number written with these decimal digits and this power of ten; none
when it is out of range. The digits are rounded first and the result scaled. -/
def ofDecimal? (negative : Bool) (digits : Nat) (exponent : Int) : Option Binary64 := do
  let whole ← nearest? digits 1
  let (mantissa, exponent) ← scaleByTen? 16 whole exponent
  some ⟨negative, mantissa, exponent⟩

def zero (negative : Bool) : Binary64 := ⟨negative, 0, 0⟩

/-- Whether a fraction lies in the interval that rounds to `mantissa * 2 ^ exponent`.
The ends belong to it when the mantissa is even; below a power of two the gap
is half as wide. -/
def roundsTo (mantissa : Nat) (exponent : Int) (num den : Nat) : Bool :=
  let narrow := mantissa = twoTo 52 ∧ -1074 < exponent
  -- All bounds in quarters of the unit in the last place.
  let (n, d) := scaled (num * 4) den exponent
  let low := if narrow then 4 * mantissa - 1 else 4 * mantissa - 2
  let high := 4 * mantissa + 2
  if mantissa % 2 = 0 then low * d ≤ n && n ≤ high * d else low * d < n && n < high * d

/-- The digits of a magnitude cut to the grid of `10 ^ position`, and the
neighbour above. -/
def gridNeighbours (num den : Nat) (position : Int) : Nat × Nat :=
  let (n, d) :=
    if 0 ≤ position then (num, den * tenTo position.toNat) else (num * tenTo (-position).toNat, den)
  (n / d, n / d + 1)

def gridValue (digits : Nat) (position : Int) : Nat × Nat :=
  if 0 ≤ position then (digits * tenTo position.toNat, 1) else (digits, tenTo (-position).toNat)

def distance (a b : Nat × Nat) : Nat × Nat :=
  let x := a.1 * b.2
  let y := b.1 * a.2
  (if x ≤ y then y - x else x - y, a.2 * b.2)

def closer (value a b : Nat × Nat) : Bool :=
  let x := distance value a
  let y := distance value b
  x.1 * y.2 < y.1 * x.2

def tied (value a b : Nat × Nat) : Bool :=
  let x := distance value a
  let y := distance value b
  x.1 * y.2 = y.1 * x.2

/-- On one decimal grid, the point nearest to the value among its two
neighbours that read back as it; a tie goes to the even one. -/
def pointOnGrid? (mantissa : Nat) (exponent : Int) (position : Int) : Option Nat :=
  let value := fraction mantissa exponent
  let (low, high) := gridNeighbours value.1 value.2 position
  let fits (digits : Nat) : Bool :=
    let (n, d) := gridValue digits position
    roundsTo mantissa exponent n d
  match fits low && low != 0, fits high with
  | true, true =>
    let below := gridValue low position
    let above := gridValue high position
    if closer value below above then some low
    else if tied value below above && low % 2 = 0 then some low
    else some high
  | true, false => some low
  | false, true => some high
  | false, false => none

/-- The position of the leading decimal digit of a magnitude: the largest `k`
with `10 ^ k` not above it. -/
def leadingPosition (num den : Nat) : Int :=
  if den ≤ num then ((Nat.toDigits 10 (num / den)).length : Int) - 1
  else
    let n := (Nat.toDigits 10 (den / num)).length
    -- den / num has n digits, so num / den lies in (10 ^ -n, 10 ^ (1 - n)].
    if den ≤ num * tenTo (n - 1) then 1 - (n : Int) else -(n : Int)

/-- The first grid, from coarse to fine, that holds a point which reads back. -/
def shortestFrom (mantissa : Nat) (exponent top : Int) : Nat → Nat → Nat × Int
  | 0, _ => (mantissa, 0)
  | fuel + 1, count =>
    let position := top + 1 - (count : Int)
    match pointOnGrid? mantissa exponent position with
    | some digits => (digits, position)
    | none => shortestFrom mantissa exponent top fuel (count + 1)

/-- Zeros at the end of a digit string belong to the power of ten. -/
def trimZeros : Nat → Nat → Int → Nat × Int
  | 0, digits, position => (digits, position)
  | fuel + 1, digits, position =>
    if digits != 0 && digits % 10 = 0 then trimZeros fuel (digits / 10) (position + 1)
    else (digits, position)

/-- The fewest digits that read back as the number, and the power of ten of the
last of them. -/
def shortest (mantissa : Nat) (exponent : Int) : Nat × Int :=
  let (n, d) := fraction mantissa exponent
  let (digits, position) := shortestFrom mantissa exponent (leadingPosition n d) 17 1
  trimZeros 18 digits position

/-- How a number is written: positionally while the leading digit's power of ten
lies in a range, otherwise with an exponent. -/
structure DecimalStyle where
  lowest : Int
  highest : Int

/-- Leading digits from `10 ^ -5` to `10 ^ 15` are written positionally, with at
least one digit after the point; exponents carry their sign. -/
def plain : DecimalStyle := ⟨-5, 15⟩

def write (style : DecimalStyle) (value : Binary64) : String :=
  let sign := if value.negative then "-" else ""
  if value.mantissa = 0 then sign ++ "0.0"
  else
    let (digits, position) := shortest value.mantissa value.exponent
    let text := (Nat.toDigits 10 digits)
    let lead := position + (text.length : Int) - 1
    let body : List Char :=
      if style.lowest ≤ lead ∧ lead ≤ style.highest then
        if 0 ≤ position then text ++ List.replicate position.toNat '0' ++ ['.', '0']
        else if 0 ≤ lead then text.take (lead.toNat + 1) ++ '.' :: text.drop (lead.toNat + 1)
        else '0' :: '.' :: List.replicate (-lead - 1).toNat '0' ++ text
      else
        let mantissa := match text with
          | [] => []
          | first :: [] => [first]
          | first :: rest => first :: '.' :: rest
        mantissa ++ 'e' :: (if lead < 0 then '-' else '+') :: Nat.toDigits 10 lead.natAbs
    sign ++ String.ofList body

end Binary64

end CertRenewal
