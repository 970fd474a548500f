import ConfigLint.Files
import ConfigLint.Text.CodePoint
/-!
Why no schema is loaded. An artifact is refused with a reason, which is part of what loading promises.
Anything else that goes wrong is raised by what loading calls, and stops whatever asked for the
schema.
-/
namespace ConfigLint

inductive LoadReason where
  | file (fault : FileFault)
  | tooLong (length : Nat)
  | unparsable (why : Text)
  | notMapping
  | illTyped (faults : Nat)
deriving Repr, DecidableEq

namespace LoadReason

def message : LoadReason → Text
  | file fault => fault.message
  | tooLong n => "artifact exceeds maximum size (".toList ++ Text.grouped n ++ " chars)".toList
  | unparsable why => "unparsable artifact: ".toList ++ why
  | notMapping => "top level must be a mapping".toList
  | illTyped n => Text.ofNat n ++ " schema validation error(s)".toList

end LoadReason

/-- An artifact that is refused: its name and the reason. -/
structure Refusal where
  name : Text
  reason : LoadReason
deriving Repr, DecidableEq

namespace Refusal

def message (r : Refusal) : Text :=
  "Cannot load schema '".toList ++ r.name ++ "': ".toList ++ r.reason.message

end Refusal

/-- Something raised that nothing expects: the name of its kind, and its text. -/
structure Raised where
  kind : Text
  text : CodeText
deriving Repr, DecidableEq

/-- What opening a file raises whose path has a null character. -/
def Raised.nullInPath : Raised := ⟨"ValueError".toList, "embedded null byte".toList⟩

/-- Why no schema was loaded. -/
inductive LoadFault where
  | refused (refusal : Refusal)
  | raised (what : Raised)
deriving Repr, DecidableEq

namespace LoadFault

def message : LoadFault → CodeText
  | refused r => CodeText.ofText r.message
  | raised e => e.text

end LoadFault
end ConfigLint
