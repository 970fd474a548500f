import ConfigLint.Decimal.Layout
import ConfigLint.Text.CodePoint
/-!
What can be wrong with a value, and how it is said.
-/
namespace ConfigLint

/-- A reason to reject a value. -/
inductive ValueProblem where
  | notBoolean
  | notNumber
  | notWhole
  | belowMinimum (limit : Binary64)
  | aboveMaximum (limit : Binary64)
  | unbalancedQuotes
  | unbalancedFontQuotes
  | unbalancedPathQuotes
  | emptyPath
  | notListed (allowed : List CodeText)
  | notColor
  | noBinding
  | badTrigger (trigger : Text)
  | badAction (action : Text)
  | noPaletteEntry
  | paletteIndex (index : Nat)
  | paletteColor (color : Text)
  | notDuration
  | notOfType (type : CodeText)
  | notOfPattern
deriving Repr, DecidableEq

namespace ValueProblem

def inQuotes (t : Text) : Text := '\'' :: t ++ ['\'']

def message (t : Text) : ValueProblem → CodeText
  | notBoolean => "Expected a boolean (true or false), got ".toList ++ inQuotes t
  | notNumber => "Expected a number, got ".toList ++ inQuotes t
  | notWhole => "Expected a whole number, got ".toList ++ inQuotes t
  | belowMinimum limit =>
    "Value ".toList ++ t ++ " is below the minimum of ".toList ++ limit.renderBrief
  | aboveMaximum limit =>
    "Value ".toList ++ t ++ " is above the maximum of ".toList ++ limit.renderBrief
  | unbalancedQuotes => "Unbalanced quotes in ".toList ++ inQuotes t
  | unbalancedFontQuotes => "Unbalanced quotes in font family ".toList ++ inQuotes t
  | unbalancedPathQuotes => "Unbalanced quotes in path ".toList ++ inQuotes t
  | emptyPath => "Path cannot be empty".toList
  | notListed allowed =>
    "Invalid value ".toList ++ inQuotes t ++ ". Expected one of: ".toList ++
      CodeText.join ", ".toList allowed
  | notColor =>
    "Invalid color ".toList ++ inQuotes t ++ ". Expected #RRGGBB, #RGB or a color name".toList
  | noBinding => "Keybind ".toList ++ inQuotes t ++ " must have the form trigger=action".toList
  | badTrigger trigger =>
    "Invalid keybind trigger ".toList ++ inQuotes trigger ++
      ". Expected keys joined by '+', e.g. ctrl+shift+c".toList
  | badAction action =>
    "Invalid keybind action ".toList ++ inQuotes action ++
      ". Expected an action name, e.g. copy_to_clipboard".toList
  | noPaletteEntry =>
    "Palette entry ".toList ++ inQuotes t ++ " must have the form N=color".toList
  | paletteIndex index =>
    "Palette index ".toList ++ Text.ofNat index ++ " is out of range (0-255)".toList
  | paletteColor color =>
    "Invalid palette color ".toList ++ inQuotes color ++
      ". Expected #RRGGBB, #RGB or a color name".toList
  | notDuration =>
    "Invalid duration ".toList ++ inQuotes t ++ ". Expected e.g. 500ms, 2s or 1h30m".toList
  | notOfType type => "Invalid ".toList ++ type ++ " value ".toList ++ inQuotes t
  | notOfPattern =>
    "Value ".toList ++ inQuotes t ++ " does not match the expected format".toList

end ValueProblem
end ConfigLint
