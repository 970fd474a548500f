import ConfigLint.Pattern.Reader
import ConfigLint.Text.Name
/-!
Reading what a backslash stands for in a pattern: single characters by letter, number or name,
classes of characters, anchors, and the text of a group.
-/
namespace ConfigLint
namespace Pattern

open Reader

def hexValue? (c : Char) : Option Nat :=
  if '0' ≤ c && c ≤ '9' then some (c.toNat - 48)
  else if 'a' ≤ c && c ≤ 'f' then some (c.toNat - 87)
  else if 'A' ≤ c && c ≤ 'F' then some (c.toNat - 55)
  else none

def isOctal (c : Char) : Bool := '0' ≤ c && c ≤ '7'

def isAsciiLetter (c : Char) : Bool := ('a' ≤ c && c ≤ 'z') || ('A' ≤ c && c ≤ 'Z')

/-- The value of digits in a base up to sixteen. -/
def valueIn (base : Nat) (digits : Text) : Nat :=
  digits.foldl (fun n c => base * n + (hexValue? c).getD 0) 0

/-- The code point of an escape with exactly `n` hexadecimal digits. -/
def hexEscape (n : Nat) : Reader Nat := do
  let digits ← takeUpTo (fun c => (hexValue? c).isSome) n
  let value := valueIn 16 digits
  if digits.length ≠ n ∨ 0x10FFFF < value then malformed else return value

def namedEscape : Reader Nat := do
  expect '\x7b'
  match codeOfName? (← takeName '\x7d') with
  | some n => return n
  | none => malformed

/-- The character that a letter behind a backslash stands for. -/
def controlEscape? (c : Char) : Option Nat :=
  [('a', 7), ('b', 8), ('f', 12), ('n', 10), ('r', 13), ('t', 9), ('v', 11)].lookup c

/-- The class that a letter behind a backslash stands for. -/
def kindEscape? (c : Char) : Option SetItem :=
  [('d', SetItem.kind .digit false), ('D', .kind .digit true), ('s', .kind .space false),
   ('S', .kind .space true), ('w', .kind .word false), ('W', .kind .word true)].lookup c

def octalValue (digits : Text) : Reader Nat := do
  let value := valueIn 8 digits
  if 0o377 < value then malformed else return value

/-- The code point of an escape that is spelt by number or name, or of a character that stands
    for itself. -/
def spelt (c : Char) : Reader Nat := do
  match c with
  | 'x' => hexEscape 2
  | 'u' => hexEscape 4
  | 'U' => hexEscape 8
  | 'N' => namedEscape
  | c => if c.isDigit || isAsciiLetter c then malformed else return c.toNat

/-- What an escape inside a set stands for. -/
def setEscape (c : Char) : Reader SetItem := do
  match controlEscape? c, kindEscape? c with
  | some code, _ => return .code code
  | none, some item => return item
  | none, none =>
    if isOctal c then return .code (← octalValue (c :: (← takeUpTo isOctal 2)))
    else return .code (← spelt c)

/-- Refers back to a group, which has to be complete, and outside the look-behind if one is
    open. -/
def checkGroup (n : Nat) : Reader Unit := do
  let s ← get
  if (s.widths.lookup n).isNone ∨ s.behind.any (· ≤ n) then malformed

def single (m : Modes) (test : CharTest) : Pattern := .letter (.ofTest m test)

/-- The part that takes one fixed code point. -/
def code (m : Modes) (n : Nat) : Pattern := single m (.code false n)

/-- What an escape that starts with a digit from one to nine stands for: with three octal digits
    a character, else the text of a group. -/
def digitEscape (m : Modes) (c : Char) : Reader Pattern := do
  let second ← takeUpTo Char.isDigit 1
  let third ← if isOctal c && second.any isOctal then takeUpTo isOctal 1 else pure []
  if third ≠ [] then return code m (← octalValue (c :: second ++ third))
  let n := valueIn 10 (c :: second)
  checkGroup n
  return .again m n

/-- What an escape outside a set stands for. -/
def escape (m : Modes) (c : Char) : Reader Pattern := do
  match c with
  | 'A' => return .anchor .textStart
  | 'Z' => return .anchor .textEnd
  | 'b' => return .anchor (.boundary m.ascii)
  | 'B' => return .anchor (.noBoundary m.ascii)
  | '0' => return code m (valueIn 8 (← takeUpTo isOctal 2))
  | c =>
    match kindEscape? c, controlEscape? c with
    | some item, _ => return single m (.set false [item])
    | none, some n => return code m n
    | none, none => if c.isDigit then digitEscape m c else return code m (← spelt c)

end Pattern
end ConfigLint
