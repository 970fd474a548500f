import ConfigLint.Diagnostic.Options
import ConfigLint.Schema.Refusal
import ConfigLint.Settings
/-!
What the library calls and does not define: a parser of artifacts, a typing of what they hold, and the
sources of settings. Nothing is said here about what they give. They may raise what they like besides
the faults that they promise; only, what they give depends on nothing but what they are given.
-/
namespace ConfigLint

/-- Why a text is not parsed: it follows no format, or something else was raised. -/
inductive ParseFault where
  | malformed (why : Text)
  | raised (what : Raised)
deriving Repr, DecidableEq

/-- Why parsed data is not typed: it has so many faults, or something else was raised. -/
inductive TypingFault where
  | invalid (faults : Nat)
  | raised (what : Raised)
deriving Repr, DecidableEq

/-- The libraries. -/
class Libraries where
  /-- What an artifact parses to. -/
  Parsed : Type
  parse : Text → Except ParseFault Parsed
  isMapping : Parsed → Bool
  /-- Types what was parsed as a schema. -/
  validate : Parsed → Except TypingFault Schema
  /-- Loads the artifact that comes with the library, where the files are as they are. -/
  bundled : Files → Except LoadFault Schema
  /-- The settings by arguments, an environment, and the files. -/
  settings : List (Data × Data) → Table Text Text → Files → Except Raised Settings
  /-- The choices for diagnostics by arguments. -/
  options : List (Data × Data) → Except Raised CheckOptions

end ConfigLint
