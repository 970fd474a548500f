import ConfigLint.Data
import ConfigLint.Decimal.Digits
/-!
What can be wrong with the text of an artifact. Most faults are of one kind: the text does not
follow the format. The others concern scalars that look like a number, a date or a character and
denote none.
-/
namespace ConfigLint

/-- A scalar that denotes nothing. -/
inductive ScalarFault where
  | digits (fault : DigitFault)
  | integer (base : Nat) (text : CodeText)
  | float (text : CodeText)
  | noNumber
  | truth (text : CodeText)
  | zone (minutes : Int)
  | month | day | year | hour | minute | second | dateRange
  | codePoint
  | hugeCodePoint
  | keyHolds (isMap : Bool)
deriving Repr, DecidableEq

namespace ScalarFault

def message : ScalarFault → CodeText
  | digits fault => fault.message
  | integer base t =>
    "invalid literal for int() with base ".toList ++ Text.ofNat base ++ ": ".toList ++
      (Data.quotedText t).take 200
  | float t => "could not convert string to float: ".toList ++ Data.quotedText t
  | noNumber => "string index out of range".toList
  | truth t => t
  | zone minutes =>
    "offset must be a timedelta strictly between -timedelta(hours=24) and ".toList ++
      "timedelta(hours=24), not ".toList ++ Zone.spanText minutes ++ ['.']
  | month => "month must be in 1..12".toList
  | day => "day is out of range for month".toList
  | year => "year 0 is out of range".toList
  | hour => "hour must be in 0..23".toList
  | minute => "minute must be in 0..59".toList
  | second => "second must be in 0..59".toList
  | dateRange => "date value out of range".toList
  | codePoint => "chr() arg not in range(0x110000)".toList
  | hugeCodePoint => "Python int too large to convert to C int".toList
  | keyHolds isMap =>
    "unhashable type: '".toList ++ (if isMap then "dict" else "list").toList ++ ['\'']

end ScalarFault

/-- Why a text gives no data. -/
inductive ArtifactFault where
  | malformed
  | scalar (fault : ScalarFault)
deriving Repr, DecidableEq

abbrev Reading (α : Type) := Except ArtifactFault α

def Reading.malformed {α : Type} : Reading α := .error .malformed

end ConfigLint
