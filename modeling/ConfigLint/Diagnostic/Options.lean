import ConfigLint.Platform
import ConfigLint.Schema.Typing
import ConfigLint.Severity
/-!
What a host can choose about the diagnostics of a document.
-/
namespace ConfigLint

/-- The choices for one pass over a document. Without a platform there are no platform hints. -/
structure CheckOptions where
  enabled : Bool := true
  platformHints : Bool := true
  unknownKeySeverity : Severity := .warning
  platform : Option Platform := none
deriving Repr, DecidableEq

namespace CheckOptions

/-- Types a severity: a text is read as people write it, anything else is a warning. -/
def severityOfData : Data → Typed Severity
  | .str t => .ok (Severity.ofText .warning (some t))
  | _ => .ok .warning

def platformOfData : Data → Typed Platform
  | .str t =>
    match t.text?.bind Platform.ofName? with
    | some p => .ok p
    | none => .fault .enum
  | _ => .fault .enum

open Data Typed in
def ofEntries (es : List (Data × Data)) : Typed CheckOptions :=
  let enabled := typeField es "enable_diagnostics" true asBool
  let hints := typeField es "show_platform_hints" true asBool
  let severity := typeField es "diagnostic_severity" .warning severityOfData
  let platform := typeField es "current_platform" none (asOptional platformOfData)
  app (app (app (enabled.map CheckOptions.mk) hints) severity) platform

end CheckOptions
end ConfigLint
