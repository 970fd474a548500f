import ConfigLint.Text.Blank
import ConfigLint.Text.LowerCase
/-!
How grave a finding is, and the names that schemas and editors use for it.
-/
namespace ConfigLint

/-- The four grades of a finding. -/
inductive Severity where
  | error | warning | info | hint
deriving Repr, DecidableEq

namespace Severity

def name : Severity → Text
  | error => "error".toList
  | warning => "warning".toList
  | info => "info".toList
  | hint => "hint".toList

def ofName? (t : Text) : Option Severity :=
  [error, warning, info, hint].find? fun s => s.name == t

/-- The names that stand for a severity where people write one. -/
def spellings : List (Text × Severity) :=
  [("error".toList, error), ("warning".toList, warning), ("information".toList, info),
   ("info".toList, info), ("hint".toList, hint)]

/-- The severity that a text spells, case and surrounding white space aside; `fallback` for any
    other text and for none. -/
def ofText (fallback : Severity) (t : Option CodeText) : Severity :=
  ((t.bind CodeText.text?).bind fun t => spellings.lookup t.trim.lower).getD fallback

end Severity
end ConfigLint
