/-!
Binary floating-point numbers of 64 bits. Every finite one is a whole number of units of 2^-1074,
so a number is kept as its sign and that count, and all comparisons are comparisons of integers.
`ofRatio` rounds a quotient to the nearest number, a tie to the one with an even last digit.
-/
namespace ConfigLint

/-- A 64-bit floating-point number. A finite one is `units` times 2^-1074; zero has a sign. -/
inductive Binary64 where
  | finite (negative : Bool) (units : Nat)
  | infinity (negative : Bool)
  | nan
deriving Repr, DecidableEq

namespace Binary64

def unit : Nat := Nat.pow 2 1074

/-- The least count of units that is too large for a finite number. -/
def limit : Nat := Nat.pow 2 2098

/-- The quotient `num / den` rounded to a whole number; a half goes to the even neighbour. -/
def roundHalfEven (num den : Nat) : Nat :=
  let q := num / den
  let r := num % den
  if 2 * r < den then q else if den < 2 * r then q + 1 else q + q % 2

/-- The distance, in units, between neighbouring numbers at `units`: 53 binary digits are kept. -/
def spacing (units : Nat) : Nat := Nat.pow 2 (units.log2 - 52)

/-- The count of units nearest to `num / den` among those with 53 binary digits. -/
def unitsOfRatio (num den : Nat) : Nat :=
  let grid := spacing (num * unit / den)
  roundHalfEven (num * unit) (den * grid) * grid

/-- The number nearest to `num / den`; from half a step above the largest one on, infinity. -/
def ofRatio (negative : Bool) (num den : Nat) : Binary64 :=
  let units := unitsOfRatio num den
  if units < limit then finite negative units else infinity negative

/-- The number nearest to `digits * 10 ^ exponent`. An exponent that puts the number beyond all
    finite ones, or below every one but zero, settles the answer without computing the power. -/
def ofDecimal (negative : Bool) (digits : Nat) (exponent : Int) : Binary64 :=
  let magnitude := (Nat.toDigits 10 digits).length + exponent
  if digits = 0 ∨ magnitude < -400 then finite negative 0
  else if 400 < magnitude then infinity negative
  else if exponent < 0 then ofRatio negative digits (Nat.pow 10 exponent.natAbs)
  else ofRatio negative (digits * Nat.pow 10 exponent.natAbs) 1

def ofInt (i : Int) : Binary64 := ofDecimal (decide (i < 0)) i.natAbs 0

def ofBool (b : Bool) : Binary64 := finite false (if b then unit else 0)

def isWhole : Binary64 → Bool
  | finite _ units => units % unit == 0
  | _ => false

/-- A finite number as a signed count of units. -/
def signedUnits (negative : Bool) (units : Nat) : Int := if negative then -units else units

/-- Whether one number is less than another. Nothing is less or greater than what is not a
    number, and the two zeros are equal. -/
def less : Binary64 → Binary64 → Bool
  | nan, _ => false
  | _, nan => false
  | infinity a, infinity b => a && !b
  | infinity a, finite .. => a
  | finite .., infinity b => !b
  | finite a m, finite b n => decide (signedUnits a m < signedUnits b n)

def toInt? : Binary64 → Option Int
  | finite negative units =>
    if units % unit = 0 then some (signedUnits negative (units / unit)) else none
  | _ => none

/-- Whether two numbers are equal as numbers. -/
def same : Binary64 → Binary64 → Bool
  | finite a m, finite b n => signedUnits a m == signedUnits b n
  | infinity a, infinity b => a == b
  | _, _ => false

end Binary64
end ConfigLint
