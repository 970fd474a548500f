import ConfigLint.Decimal.Digits
import ConfigLint.Text.Blank
import ConfigLint.Text.Digit
/-!
Palette entries `N=color`: the number of a colour and the colour that it is to be.
-/
namespace ConfigLint

/-- The parts of a palette entry: the digits of the number, and the text of the colour. -/
structure PaletteEntry where
  digits : List Nat
  color : Text
deriving Repr, DecidableEq

namespace PaletteEntry

def paletteSize : Nat := 256

/-- Splits an entry: digits, an equals sign with white space around it, and a colour on one
    line. -/
def ofText? (t : Text) : Option PaletteEntry :=
  let (digits, rest) := spanDigits t
  if digits = [] then none
  else
    match Text.trimStart rest with
    | '=' :: rest =>
      let color := Text.trimStart rest
      if color.contains '\n' then none else some ⟨digits, Text.trim color⟩
    | _ => none

def index (e : PaletteEntry) : Except DigitFault Nat :=
  if maxDigits < e.digits.length then .error (.read e.digits.length)
  else .ok (digitsValue 0 e.digits)

end PaletteEntry
end ConfigLint
