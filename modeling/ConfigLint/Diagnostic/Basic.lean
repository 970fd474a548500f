import ConfigLint.Platform
import ConfigLint.Severity
import ConfigLint.Value.Problem
import ConfigLint.Document.Line
/-!
Diagnostics: located findings about a configuration document.
-/
namespace ConfigLint

inductive DiagnosticCode where
  | invalidLine | unknownKey | deprecatedKey | platformMismatch | invalidValue | duplicateKey
deriving Repr, DecidableEq

namespace DiagnosticCode

def name : DiagnosticCode → Text
  | invalidLine => "INVALID_LINE".toList
  | unknownKey => "UNKNOWN_KEY".toList
  | deprecatedKey => "DEPRECATED_KEY".toList
  | platformMismatch => "PLATFORM_MISMATCH".toList
  | invalidValue => "INVALID_VALUE".toList
  | duplicateKey => "DUPLICATE_KEY".toList

end DiagnosticCode

/-- A finding at a place of a document: the characters from `start` up to `stop` of a line, lines
    counted from zero. -/
structure Diagnostic where
  line : Int
  start : Int
  stop : Int
  message : CodeText
  severity : Severity
  code : DiagnosticCode
deriving Repr, DecidableEq

/-- What is found out about a line. A repeated key comes with the number of the line that sets it
    first. -/
inductive Finding where
  | invalidLine
  | unknownKey (key : Text)
  | deprecatedKey (key : Text)
  | platformMismatch (key : Text) (platforms : List CodeText) (current : Platform)
  | invalidValue (value : Text) (problem : ValueProblem)
  | duplicateKey (key : Text) (first : Int)
deriving Repr, DecidableEq

namespace Finding

def code : Finding → DiagnosticCode
  | invalidLine => .invalidLine
  | unknownKey _ => .unknownKey
  | deprecatedKey _ => .deprecatedKey
  | platformMismatch .. => .platformMismatch
  | invalidValue .. => .invalidValue
  | duplicateKey .. => .duplicateKey

/-- The message of a finding. People count lines from one. -/
def message : Finding → CodeText
  | invalidLine => "Invalid line format. Expected: key = value or # comment".toList
  | unknownKey key => "Unknown configuration key: ".toList ++ ValueProblem.inQuotes key
  | deprecatedKey key =>
    ValueProblem.inQuotes key ++ " is deprecated and may be removed in future versions".toList
  | platformMismatch key platforms current =>
    ValueProblem.inQuotes key ++ " is only available on ".toList ++
      CodeText.join ", ".toList platforms ++ " (current: ".toList ++ current.name ++ [')']
  | invalidValue value problem => problem.message value
  | duplicateKey key first =>
    "Duplicate key ".toList ++ ValueProblem.inQuotes key ++ " (first defined on line ".toList ++
      Text.ofInt (first + 1) ++ [')']

/-- The diagnostic of a finding about a line; without a span it is about the whole line. -/
def diagnostic (f : Finding) (severity : Severity) (line : Line) (span : Option Span) :
    Diagnostic :=
  let span := span.getD line.wholeSpan
  { line := line.number
    start := span.start
    stop := span.stop
    message := f.message
    severity := severity
    code := f.code }

end Finding
end ConfigLint
