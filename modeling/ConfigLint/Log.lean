import ConfigLint.Text
import ConfigLint.Value.Check
/-!
What the library records while it works.
-/
namespace ConfigLint

inductive LogLevel where
  | debug | warning | error
deriving Repr, DecidableEq

inductive LogEvent where
  | skippedLine (number : Int) (fault : CheckFault)
  | checkedDocument (lines diagnostics : Nat)
  | cachedSchema (version : CodeText) (options : Nat)
  | loadedSchema (version : CodeText) (path : Text) (options : Nat)
  | fellBack (reason : Text)
deriving Repr, DecidableEq

namespace LogEvent

def level : LogEvent → LogLevel
  | skippedLine .. => .error
  | fellBack .. => .warning
  | _ => .debug

def message : LogEvent → CodeText
  | skippedLine number _ =>
    "Skipping line ".toList ++ Text.ofInt number ++ " after an unexpected error".toList
  | checkedDocument lines diagnostics =>
    "Validated ".toList ++ Text.ofNat lines ++ " lines: ".toList ++ Text.ofNat diagnostics ++
      " diagnostics".toList
  | cachedSchema version options =>
    "Cached schema ".toList ++ version ++ " (".toList ++ Text.ofNat options ++
      " options)".toList
  | loadedSchema version path options =>
    "Loaded schema ".toList ++ version ++ " from ".toList ++ path ++ " (".toList ++
      Text.ofNat options ++ " options)".toList
  | fellBack reason => reason ++ "; falling back to an empty schema".toList

end LogEvent
end ConfigLint
