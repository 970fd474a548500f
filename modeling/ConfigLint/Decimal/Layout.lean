import ConfigLint.Decimal.Binary64
import ConfigLint.Text
/-!
Floating-point numbers in decimal. `shortest` finds the fewest digits that read back as the same
number and, of those, the ones nearest to it; `rounded` keeps a given number of digits. A
`Layout` says how digits are written: with a point, or with an exponent.
-/
namespace ConfigLint

/-- The positive number `digits * 10 ^ exponent`. -/
structure Decimal where
  digits : Nat
  exponent : Int
deriving Repr, DecidableEq

namespace Decimal

/-- How numbers are written. A number whose first digit stands at the place of 10^e is written
    with a point if `lowest ≤ e < highest`, else with an exponent. `wholePoint` says whether a
    whole number gets `.0`. -/
structure Layout where
  lowest : Int
  highest : Int
  wholePoint : Bool

/-- Numbers in lists and defaults: whole ones have `.0`, from 10^16 on there is an exponent. -/
def Layout.plain : Layout := ⟨-4, 16, true⟩

/-- Limits in messages: six digits, no trailing zeros, no `.0`. -/
def Layout.brief : Layout := ⟨-4, 6, false⟩

def stripZeros (digits : Text) : Text := digits.dropEndWhile (· == '0')

/-- The number of the place where the first digit of `units` stands. -/
def leadingPlace (units : Nat) : Int :=
  (Nat.toDigits 10 (units * Nat.pow 10 400 / Binary64.unit)).length - 401

def scaled (units : Nat) (place : Int) : Nat × Nat :=
  if place < 0 then (units * Nat.pow 10 place.natAbs, Binary64.unit)
  else (units, Binary64.unit * Nat.pow 10 place.natAbs)

/-- Whether a decimal number reads back as the finite number of `units`. -/
def readsBack (units : Nat) (d : Decimal) : Bool :=
  Binary64.ofDecimal false d.digits d.exponent == .finite false units

/-- The neighbours of `units` among the multiples of 10^place that read back, the nearer one
    first; of two equally near ones, the one with an even last digit. -/
def neighbours (units : Nat) (place : Int) : List Decimal :=
  let (num, den) := scaled units place
  let below : Decimal := ⟨num / den, place⟩
  let above : Decimal := ⟨num / den + 1, place⟩
  let nearest := Binary64.roundHalfEven num den
  let order := if nearest = below.digits then [below, above] else [above, below]
  order.filter (readsBack units)

/-- The fewest digits that read back as the finite number of `units`; 17 always do. -/
def shortest (units : Nat) : Decimal :=
  let top := leadingPlace units
  let candidates := (List.range 17).flatMap fun (count : Nat) => neighbours units (top - count)
  candidates.headD ⟨0, 0⟩

/-- The finite number of `units` rounded to `count` digits, a half to the even neighbour. -/
def rounded (count : Nat) (units : Nat) : Decimal :=
  let place := leadingPlace units - count + 1
  let (num, den) := scaled units place
  ⟨Binary64.roundHalfEven num den, place⟩

/-- An exponent with its sign and at least two digits. -/
def exponentText (e : Int) : Text :=
  let digits := Text.ofNat e.natAbs
  (if e < 0 then '-' else '+') :: (if digits.length < 2 then '0' :: digits else digits)

/-- Digits with a point after the first `whole` of them. -/
def pointed (layout : Layout) (digits : Text) (whole : Nat) : Text :=
  let fraction := digits.drop whole
  let front := (digits ++ List.replicate (whole - digits.length) '0').take whole
  if fraction ≠ [] then front ++ '.' :: fraction
  else if layout.wholePoint then front ++ ['.', '0'] else front

def render (layout : Layout) (d : Decimal) : Text :=
  let all := Text.ofNat d.digits
  let digits := stripZeros all
  let top := d.exponent + (all.length - 1 : Nat)
  if top < layout.lowest ∨ layout.highest ≤ top then
    let fraction := digits.drop 1
    digits.take 1 ++ (if fraction = [] then [] else '.' :: fraction) ++ 'e' :: exponentText top
  else if top < 0 then
    '0' :: '.' :: (List.replicate (top.natAbs - 1) '0' ++ digits)
  else pointed layout digits (top.natAbs + 1)

end Decimal

namespace Binary64

/-- A number in a layout, from the digits that `choose` picks for its units. -/
def renderWith (layout : Decimal.Layout) (choose : Nat → Decimal) : Binary64 → Text
  | nan => "nan".toList
  | infinity negative => (if negative then ['-'] else []) ++ "inf".toList
  | finite negative units =>
    (if negative then ['-'] else []) ++
      if units = 0 then (if layout.wholePoint then "0.0".toList else ['0'])
      else Decimal.render layout (choose units)

def render (x : Binary64) : Text := x.renderWith .plain Decimal.shortest

/-- A number with at most six digits. -/
def renderBrief (x : Binary64) : Text := x.renderWith .brief (Decimal.rounded 6)

end Binary64
end ConfigLint
