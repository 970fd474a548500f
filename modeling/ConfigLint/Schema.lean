import ConfigLint.Data
import ConfigLint.Table
/-!
A schema: the catalogue of the options that a configuration may set, and the value types that
they share.
-/
namespace ConfigLint

/-- Rules on top of an option's type. `severity` is the gravity of a failed check. -/
structure Constraints where
  min : Option Binary64 := none
  max : Option Binary64 := none
  integer : Bool := false
  pattern : Option CodeText := none
  severity : Option CodeText := none
deriving Repr

/-- What a schema says about one option. No platforms means all of them. -/
structure OptionDecl where
  type : CodeText := "string".toList
  description : CodeText := []
  default : Data := .null
  deprecated : Bool := false
  platforms : List CodeText := []
  repeatable : Bool := false
  values : List CodeText := []
  constraints : Constraints := {}
deriving Repr

/-- A value type that a schema declares. -/
structure TypeDecl where
  description : CodeText := []
  values : List CodeText := []
  pattern : Option CodeText := none
  examples : List CodeText := []
deriving Repr, DecidableEq

/-- A catalogue of options and types. -/
structure Schema where
  version : CodeText := "0.0.0".toList
  description : CodeText := []
  options : Table CodeText OptionDecl := .empty
  types : Table CodeText TypeDecl := .empty
  repeatableKeys : List CodeText := []

namespace Schema

/-- The schema that takes the place of one that cannot be read: it knows no option. -/
def fallback : Schema := { description := "Fallback schema".toList }

def lookup (s : Schema) (key : Text) : Option OptionDecl := s.options.get? (CodeText.ofText key)

/-- Whether a key may be set more than once: the schema lists it as repeatable, or its option
    says so. -/
def isRepeatable (s : Schema) (key : Text) : Bool :=
  s.repeatableKeys.contains (CodeText.ofText key) || (s.lookup key).any (·.repeatable)

end Schema
end ConfigLint
