import ConfigLint.Decimal.Binary64
import ConfigLint.Text.Blank
import ConfigLint.Text.Digit
/-!
Decimal numbers as they are written: a sign, digits, a point, more digits, and in the scientific
form an exponent. Digits may be of any script where a number is a value of a configuration.
-/
namespace ConfigLint

/-- A written decimal number without exponent: the values of its digits before and after the
    point. -/
structure Numeral where
  negative : Bool
  whole : List Nat
  fraction : List Nat
deriving Repr, DecidableEq

namespace Numeral

/-- Whether there is a minus sign at the front, and what follows a sign or the absence of one. -/
def sign : Text → Bool × Text
  | '-' :: rest => (true, rest)
  | '+' :: rest => (false, rest)
  | t => (false, t)

/-- The number that a text writes; there is a digit before the point or after it, and the point
    may be left out if no digit follows. -/
def ofText? (t : Text) : Option Numeral :=
  let (negative, unsigned) := sign t
  let (whole, rest) := spanDigits unsigned
  match rest with
  | [] => if whole = [] then none else some ⟨negative, whole, []⟩
  | '.' :: rest =>
    let (fraction, rest) := spanDigits rest
    if rest = [] ∧ ¬ (whole = [] ∧ fraction = []) then some ⟨negative, whole, fraction⟩ else none
  | _ => none

def digits (n : Numeral) : Nat := digitsValue 0 (n.whole ++ n.fraction)

/-- The floating-point number nearest to `n * 10 ^ exponent`. -/
def toBinary64 (n : Numeral) (exponent : Int) : Binary64 :=
  Binary64.ofDecimal n.negative n.digits (exponent - n.fraction.length)

end Numeral

namespace Binary64

def isExponentMark (c : Char) : Bool := c == 'e' || c == 'E'

def exponent? (t : Text) : Option Int :=
  let (negative, unsigned) := Numeral.sign t
  let (ds, rest) := spanDigits unsigned
  if ds = [] ∨ rest ≠ [] then none
  else some (if negative then -(digitsValue 0 ds : Int) else digitsValue 0 ds)

/-- The number in scientific form, with ASCII digits. -/
def ofScientific? (t : Text) : Option Binary64 :=
  if !t.all (·.toNat < 128) then none
  else
    let mantissa := t.takeWhile (!isExponentMark ·)
    let exponent := match t.dropWhile (!isExponentMark ·) with
      | [] => some 0
      | _ :: rest => exponent? rest
    (Numeral.ofText? mantissa).bind fun n => exponent.map n.toBinary64

def lowerAscii (c : Char) : Char := if 'A' ≤ c ∧ c ≤ 'Z' then Char.ofNat (c.toNat + 32) else c

/-- The special number that a text names after an optional sign, case aside. -/
def special? (t : Text) : Option Binary64 :=
  let (negative, name) := Numeral.sign t
  let name := name.map lowerAscii
  if name = "inf".toList ∨ name = "infinity".toList then some (.infinity negative)
  else if name = "nan".toList then some .nan
  else none

/-- Whether every underscore stands between two digits. -/
def underscoresBetweenDigits (t : Text) : Bool :=
  let groups := t.splitOn '_'
  groups.dropLast.all (·.getLast?.any Char.isDigit) && groups.tail.all (·.head?.any Char.isDigit)

/-- The number that a text stands for where numbers and their texts are taken alike: white space
    around it is ignored, and single underscores may separate digits. -/
def ofText? (t : Text) : Option Binary64 :=
  let t := Text.trim t
  if underscoresBetweenDigits t then
    let plain := t.filter (· ≠ '_')
    (special? plain).or (ofScientific? plain)
  else none

end Binary64
end ConfigLint
