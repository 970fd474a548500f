import ConfigLint.Text.Blank
import ConfigLint.Text.Digit
/-!
Durations such as `1h30m`: parts one after the other, each a number with a unit behind it. A part
takes the longest run of digits and the longest unit there is.
-/
namespace ConfigLint
namespace Duration

/-- The units; of two that start alike, the longer one comes first. -/
def units : List Text :=
  ["ns".toList, "us".toList, "ms".toList, "s".toList, "m".toList, "h".toList, "d".toList]

/-- What follows a unit at the front of a text. -/
def afterUnit? (t : Text) : Option Text :=
  units.findSome? fun u => if u.isPrefixOf t then some (t.drop u.length) else none

/-- What follows the digits of a number at the front of a text, its fraction included; there is a
    digit before the point, and behind the point too if there is one. -/
def afterNumber? (t : Text) : Option Text :=
  let (whole, rest) := spanDigits t
  if whole = [] then none
  else
    match rest with
    | '.' :: rest =>
      let (fraction, rest) := spanDigits rest
      if fraction = [] then none else some rest
    | _ => some rest

/-- What follows one part and the white space behind it. -/
def afterPart? (t : Text) : Option Text :=
  ((afterNumber? t).bind afterUnit?).map Text.trimStart

/-- Whether a text is at most `n` parts, at least one. -/
def partsWithin : Nat → Text → Bool
  | 0, _ => false
  | n + 1, t =>
    match afterPart? t with
    | none => false
    | some rest => rest.isEmpty || partsWithin n rest

def accepts (t : Text) : Bool := partsWithin t.length t

end Duration
end ConfigLint
