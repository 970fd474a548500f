import ConfigLint.Artifact.Content
import ConfigLint.Libraries
import ConfigLint.Schema.Bundled
import ConfigLint.Settings.Sources
/-!
Libraries to run with: the reader of artifacts, the typing and the sources of settings that are
defined here. They cover what artifacts and settings are made of in practice, which leaves out
directives, sets and binary data in artifacts, and variables that refer to each other. What is proved
about loading does not rest on them.
-/
namespace ConfigLint

namespace ScalarFault

def kind : ScalarFault → Text
  | truth _ => "KeyError".toList
  | noNumber => "IndexError".toList
  | hugeCodePoint | dateRange => "OverflowError".toList
  | keyHolds _ => "TypeError".toList
  | _ => "ValueError".toList

/-- What is raised at a scalar that denotes nothing. -/
def raised (f : ScalarFault) : Raised := ⟨f.kind, f.message⟩

end ScalarFault

/-- The fault of an artifact as one of parsing. -/
def ParseFault.ofArtifact : ArtifactFault → ParseFault
  | .malformed => malformed []
  | .scalar f => raised f.raised

def Data.isMapping : Data → Bool
  | .map _ => true
  | _ => false

instance Libraries.own : Libraries where
  Parsed := Data
  parse t := (Data.ofText t).mapError .ofArtifact
  isMapping := Data.isMapping
  validate data := (Schema.ofData data).mapError fun faults => .invalid faults.length
  bundled _ := .ok Schema.bundled
  settings := Settings.read
  options arguments := (CheckOptions.ofEntries arguments).mapError .ofTyping

end ConfigLint
