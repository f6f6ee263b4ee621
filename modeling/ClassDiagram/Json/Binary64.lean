import ClassDiagram.Text.Basic

/-!
# Binary floating point numbers of 64 bits

A number with a fraction or an exponent is read as the nearest number of the form
`significand * 2 ^ exponent` with at most 53 bits, a tie going to the even significand, and written
with the fewest decimal digits that read back as the same number. All arithmetic is on natural
numbers.
-/

namespace ClassDiagram

/-- A finite number, an infinity, or no number. -/
inductive Binary64 where
  | finite (negative : Bool) (significand : Nat) (exponent : Int)
  | infinite (negative : Bool)
  | nan
  deriving DecidableEq, Repr

namespace Binary64

/-- A quotient to the nearest natural number, a tie going to the even one. -/
def roundQuotient (numerator denominator : Nat) : Nat :=
  let below := numerator / denominator
  let rest := numerator % denominator
  if 2 * rest < denominator then below
  else if denominator < 2 * rest then below + 1
  else below + below % 2

/-- A fraction times a power of a base, as a fraction. -/
def scale (base : Nat) (power : Int) (numerator denominator : Nat) : Nat × Nat :=
  if 0 ≤ power then (numerator * Nat.pow base power.toNat, denominator)
  else (numerator, denominator * Nat.pow base (-power).toNat)

/-- The significand and the exponent nearest to a positive fraction; none if it is too large. -/
def nearest? (numerator denominator : Nat) : Option (Nat × Int) :=
  let guess : Int := (numerator.log2 : Int) - denominator.log2
  let (n, d) := scale 2 (-guess) numerator denominator
  let magnitude := if d ≤ n then guess else guess - 1
  let exponent := max (-1074) (magnitude - 52)
  let (n, d) := scale 2 (-exponent) numerator denominator
  let rounded := roundQuotient n d
  let (significand, exponent) :=
    if rounded = 0x20000000000000 then (0x10000000000000, exponent + 1) else (rounded, exponent)
  if 971 < exponent then none else some (significand, exponent)

/-- The number nearest to `digits * 10 ^ power`. Powers far beyond the range are not raised. -/
def ofDecimal (negative : Bool) (digits : Nat) (power : Int) : Binary64 :=
  let magnitude := ((Nat.toDigits 10 digits).length : Int) + power
  if digits = 0 || magnitude < -400 then .finite negative 0 0
  else if 400 < magnitude then .infinite negative
  else
    let (n, d) := scale 10 power digits 1
    match nearest? n d with
    | some (significand, exponent) => .finite negative significand exponent
    | none => .infinite negative

/-- The number of decimal places by which a positive fraction has to be shifted to lie below one and
not below a tenth. At most `steps` places after the point are looked at. -/
def decimalPoint (steps numerator denominator : Nat) : Int :=
  if denominator ≤ numerator then (Nat.toDigits 10 (numerator / denominator)).length
  else
    match steps with
    | 0 => 0
    | steps + 1 =>
        if denominator ≤ numerator * 10 then 0
        else decimalPoint steps (numerator * 10) denominator - 1

/-- The two decimal numbers of a given number of places nearest to a positive fraction, the nearer
one first and of a tie the even one. -/
def neighbours (power : Int) (numerator denominator : Nat) : List Nat :=
  let (n, d) := scale 10 (-power) numerator denominator
  let below := n / d
  if roundQuotient n d = below then [below, below + 1] else [below + 1, below]

/-- The fewest decimal digits that read back as a finite positive number, and their power of ten. -/
def shortest (significand : Nat) (exponent : Int) : Nat × Int :=
  let (n, d) := scale 2 exponent significand 1
  let point := decimalPoint 400 n d
  let found := (List.range 17).findSome? fun (k : Nat) =>
    let power : Int := point - (k + 1)
    (neighbours power n d).findSome? fun digits =>
      let (a, b) := scale 10 power digits 1
      if nearest? a b = some (significand, exponent) then some (digits, power) else none
  found.getD (significand, 0)

/-- Digits without the zeros at their end, and the power of ten that goes with them. -/
def dropZeros (digits : Text) (power : Int) : Text × Int :=
  let kept := Text.dropEndWhile (· = '0') digits
  (kept, power + ((digits.length : Int) - kept.length))

/-- Decimal digits with a point or an exponent. The point is written out for numbers from a ten
thousandth up to below ten to the sixteenth, and there is always a digit on either side of it. -/
def place (digits : Text) (power : Int) : Text :=
  let count : Int := digits.length
  let point := count + power
  if -4 < point ∧ point ≤ 16 then
    if point ≤ 0 then "0.".toList ++ List.replicate (-point).toNat '0' ++ digits
    else if count ≤ point then digits ++ List.replicate (point - count).toNat '0' ++ ".0".toList
    else digits.take point.toNat ++ ['.'] ++ digits.drop point.toNat
  else
    let exponent := point - 1
    let mantissa := digits.take 1 ++ (if digits.length ≤ 1 then [] else '.' :: digits.drop 1)
    let sign := if exponent < 0 then '-' else '+'
    let size := Text.ofNat exponent.natAbs
    mantissa ++ ['e', sign] ++ List.replicate (2 - size.length) '0' ++ size

/-- A number in text. -/
def toText : Binary64 → Text
  | .nan => "NaN".toList
  | .infinite false => "Infinity".toList
  | .infinite true => "-Infinity".toList
  | .finite negative significand exponent =>
      let sign : Text := if negative then ['-'] else []
      if significand = 0 then sign ++ "0.0".toList
      else
        let (digits, power) := shortest significand exponent
        let (kept, power) := dropZeros (Text.ofNat digits) power
        sign ++ place kept power

/-- The integer that a number is. -/
def integer? : Binary64 → Option Int
  | .finite negative significand exponent =>
      let (n, d) := scale 2 exponent significand 1
      if n % d = 0 then some (if negative then -(n / d : Int) else n / d) else none
  | _ => none

end Binary64

end ClassDiagram
