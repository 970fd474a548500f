import ConfigLint.Diagnostic.Options
import ConfigLint.Path
/-!
The settings of a host.
-/
namespace ConfigLint

/-- The settings. Without a schema path the bundled schema is meant. -/
structure Settings where
  schemaPath : Option Path := none
  enabled : Bool := true
  platformHints : Bool := true
  severityName : CodeText := "Warning".toList
deriving Repr, DecidableEq

namespace Settings

/-- The choices for the diagnostics of a document on a system of this name. -/
def checkOptions (s : Settings) (system : Text) : CheckOptions :=
  { enabled := s.enabled
    platformHints := s.platformHints
    unknownKeySeverity := .ofText .warning (some s.severityName)
    platform := Platform.ofSystem? system }

end Settings
end ConfigLint
