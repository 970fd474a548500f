import ConfigLint.Decimal.Digits
import ConfigLint.Pattern.Basic
import ConfigLint.Pattern.Token
/-!
The state of reading a pattern, and the readers for small pieces of its text. What a schema may
get wrong about a pattern falls in two: faults that only make the pattern unusable, and numbers
that are too large to work with.
-/
namespace ConfigLint

/-- Why a text is no pattern. -/
inductive PatternFault where
  | malformed
  | repeatTooLarge
  | repeatDigits (fault : DigitFault)
  | clashingModes
deriving Repr, DecidableEq

namespace Pattern

/-- What has been read: the rest of the text, the number of the next group, the named groups, the
    widths of the complete groups, the first group number not visible inside a look-behind, the
    group numbers that conditions ask for, and whether a look-behind has a width that is not
    fixed. -/
structure ReadState where
  rest : List Token
  nextGroup : Nat := 1
  names : List (Text × Nat) := []
  widths : List (Nat × Width) := []
  behind : Option Nat := none
  asked : List Nat := []
  vague : Bool := false

abbrev Reader := StateT ReadState (Except PatternFault)

namespace Reader

def malformed {α : Type} : Reader α := throw .malformed

/-- Goes on at `rest`. A backslash with nothing behind it is a fault as soon as it is next. -/
def goTo (rest : List Token) : Reader Unit :=
  if rest.head? = some .stray then malformed else modify fun s => { s with rest := rest }

def peek : Reader (Option Token) := do return (← get).rest.head?

def take : Reader (Option Token) := do
  match (← get).rest with
  | [] => return none
  | t :: rest => goTo rest; return some t

def accept (c : Char) : Reader Bool := do
  if (← peek) = some (.plain c) then
    let _ ← take
    return true
  else return false

/-- Takes the character `c`, which has to be next. -/
def expect (c : Char) : Reader Unit := do
  if !(← accept c) then malformed

/-- Takes at most `n` characters that satisfy `p`. -/
def takeUpTo (p : Char → Bool) : Nat → Reader Text
  | 0 => return []
  | n + 1 => do
    match ← peek with
    | some (.plain c) =>
      if p c then
        let _ ← take
        return c :: (← takeUpTo p n)
      else return []
    | _ => return []

/-- Takes a name that ends at `stop`. It may not be empty, and its characters stand without
    backslashes. -/
def takeName (stop : Char) : Reader Text := do
  let rest := (← get).rest
  let name := rest.takeWhile (· ≠ .plain stop)
  match rest.drop name.length, name.mapM Token.char? with
  | _ :: rest, some (c :: name) => goTo rest; return c :: name
  | _, _ => malformed

/-- Skips a comment up to its `stop`, or to the end of the text if that is allowed. -/
def skipComment (stop : Char) (endAllowed : Bool) : Reader Unit := do
  let rest := (← get).rest.dropWhile fun t => t ≠ .plain stop ∧ t ≠ .stray
  match rest with
  | .plain _ :: rest => goTo rest
  | rest => if endAllowed then goTo rest else malformed

end Reader
end Pattern
end ConfigLint
