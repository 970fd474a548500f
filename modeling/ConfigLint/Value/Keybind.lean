import ConfigLint.Text.Blank
/-!
Key bindings: `trigger=action`, or the word `clear`. A trigger is a sequence of steps separated
by `>`, each of them keys joined by `+`, behind any number of modifiers such as `global:`. An
action is a name, with an argument behind a colon if it takes one.
-/
namespace ConfigLint
namespace Keybind

/-- The words that may stand, each with a colon, in front of a trigger. -/
def modifiers : List Text :=
  ["global".toList, "all".toList, "unconsumed".toList, "performable".toList]

/-- Segments of a trigger without the modifiers at the front; the last segment stays. -/
def dropModifiers : List Text → List Text
  | segment :: next :: rest =>
    if modifiers.contains segment then dropModifiers (next :: rest) else segment :: next :: rest
  | segments => segments

def isKey (t : Text) : Bool := t ≠ [] && !t.any isBlank

def isTrigger (t : Text) : Bool :=
  let steps := (Text.join [':'] (dropModifiers (t.splitOn ':'))).splitOn '>'
  steps.all fun step => (step.splitOn '+').all isKey

def isActionStart (c : Char) : Bool := 'a' ≤ c && c ≤ 'z'

def isActionChar (c : Char) : Bool := isActionStart c || ('0' ≤ c && c ≤ '9') || c == '_'

/-- Whether a text is an action: a name, and an argument of one line behind a colon. -/
def isAction : Text → Bool
  | [] => false
  | c :: rest =>
    isActionStart c &&
      match rest.dropWhile isActionChar with
      | [] => true
      | d :: argument => d == ':' && !argument.contains '\n'

end Keybind
end ConfigLint
