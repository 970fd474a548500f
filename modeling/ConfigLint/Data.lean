import ConfigLint.Decimal.Digits
import ConfigLint.Decimal.Layout
import ConfigLint.Moment
import ConfigLint.Text.CodePoint
import ConfigLint.Text.Printable
/-!
Plain data as it is found in a schema artifact: scalars, lists and mappings. `Data.display` is the
text of a value as an editor displays it.
-/
namespace ConfigLint

/-- Plain data. A mapping keeps its entries in order. A list or mapping may contain itself; inside
    of it, `again` stands for it. -/
inductive Data where
  | null
  | bool (b : Bool)
  | int (i : Int)
  | float (x : Binary64)
  | str (t : CodeText)
  | moment (m : Moment)
  | list (items : List Data)
  | map (entries : List (Data × Data))
  | again (isMap : Bool)
deriving Repr

namespace Data

def hex (width n : Nat) : Text :=
  let t := Nat.toDigits 16 n
  List.replicate (width - t.length) '0' ++ t

/-- The escape of a code point that cannot be printed. -/
def escaped (n : Nat) : Text :=
  if n < 0x100 then '\\' :: 'x' :: hex 2 n
  else if n < 0x10000 then '\\' :: 'u' :: hex 4 n
  else '\\' :: 'U' :: hex 8 n

/-- A code point of a quoted text: the quote and the backslash get a backslash, and what cannot be
    printed is written as its code point. -/
def quotedChar (quote : Char) : CodePoint → Text
  | .surrogate offset => escaped (CodePoint.surrogate offset).toNat
  | .char c =>
    if c = quote ∨ c = '\\' then ['\\', c]
    else if c = '\t' then ['\\', 't']
    else if c = '\n' then ['\\', 'n']
    else if c = '\r' then ['\\', 'r']
    else if isPrintable c then [c]
    else escaped c.toNat

/-- A text in quotes: single ones, or double ones if it has single quotes and no double ones. -/
def quotedText (t : CodeText) : Text :=
  let quote := if t.contains (.char '\'') && !t.contains (.char '"') then '"' else '\''
  quote :: t.flatMap (quotedChar quote) ++ [quote]

/-- The fixed words of the data format. -/
def wordOf : Option Bool → Text
  | none => "None".toList
  | some true => "True".toList
  | some false => "False".toList

/-- What stands for a list or mapping inside of itself. -/
def againText (isMap : Bool) : Text := if isMap then "\x7b...\x7d".toList else "[...]".toList

mutual

/-- A value inside a list or mapping; texts are in quotes. -/
def nested : Data → Except DigitFault Text
  | null => .ok (wordOf none)
  | bool b => .ok (wordOf (some b))
  | int i => writeInt i
  | float x => .ok x.render
  | str t => .ok (quotedText t)
  | moment m => .ok m.nestedText
  | again isMap => .ok (againText isMap)
  | list items => do
    let parts ← nestedItems items
    return '[' :: Text.join ", ".toList parts ++ [']']
  | map entries => do
    let parts ← nestedEntries entries
    return '\x7b' :: Text.join ", ".toList parts ++ ['\x7d']

def nestedItems : List Data → Except DigitFault (List Text)
  | [] => .ok []
  | d :: rest => do return (← nested d) :: (← nestedItems rest)

/-- The entries of a mapping. A list that is a key is written in parentheses. -/
def nestedEntries : List (Data × Data) → Except DigitFault (List Text)
  | [] => .ok []
  | (k, v) :: rest => do
    let key ← nestedKey k
    let value ← nested v
    return (key ++ ": ".toList ++ value) :: (← nestedEntries rest)

def nestedKey : Data → Except DigitFault Text
  | list items => do
    let parts ← nestedItems items
    return '(' :: Text.join ", ".toList parts ++ (if parts.length = 1 then ",)".toList else [')'])
  | null => .ok (wordOf none)
  | bool b => .ok (wordOf (some b))
  | int i => writeInt i
  | float x => .ok x.render
  | str t => .ok (quotedText t)
  | moment m => .ok m.nestedText
  | again isMap => .ok (againText isMap)
  | map _ => .ok []

end

/-- The text of a value: a text is itself, a date is written plainly, and everything else as it
    is inside a list. -/
def display : Data → Except DigitFault CodeText
  | str t => .ok t
  | moment m => .ok m.text
  | d => d.nested.map CodeText.ofText

def displayKey : Data → Except DigitFault CodeText
  | str t => .ok t
  | moment m => .ok m.text
  | d => d.nestedKey.map CodeText.ofText

end Data
end ConfigLint
