import ConfigLint.Text
/-!
The limit on whole numbers in decimal. A number with more digits is neither read nor written.
-/
namespace ConfigLint

/-- The most decimal digits of a whole number that is read or written. -/
def maxDigits : Nat := 4300

/-- A whole number beyond the limit: one that was to be read, with the number of its digits, or
    one that was to be written. -/
inductive DigitFault where
  | read (digits : Nat)
  | written
deriving Repr, DecidableEq

namespace DigitFault

def message : DigitFault → Text
  | read digits =>
    "Exceeds the limit (4300 digits) for integer string conversion: value has ".toList ++
      Text.ofNat digits ++
      " digits; use sys.set_int_max_str_digits() to increase the limit".toList
  | written =>
    "Exceeds the limit (4300 digits) for integer string conversion; ".toList ++
      "use sys.set_int_max_str_digits() to increase the limit".toList

end DigitFault

def writeInt (i : Int) : Except DigitFault Text :=
  let t := Text.ofNat i.natAbs
  if maxDigits < t.length then .error .written
  else .ok (if i < 0 then '-' :: t else t)

end ConfigLint
