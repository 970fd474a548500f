import ConfigLint.Schema.Typing
import ConfigLint.Value.Check
/-!
The outcome of checking one value under its key.
-/
namespace ConfigLint

/-- The outcome of a check. A rejected value comes with a message, and with a severity if the
    check sets one. -/
structure ValueResult where
  valid : Bool
  message : Option CodeText := none
  severity : Option Severity := none
deriving Repr, DecidableEq

namespace ValueResult

def accepted : ValueResult := { valid := true }

def rejected (message : CodeText) (severity : Severity) : ValueResult :=
  { valid := false, message := some message, severity := some severity }

/-- The severity to go by: a warning if none is set. -/
def effectiveSeverity (r : ValueResult) : Severity := r.severity.getD .warning

/-- Types a severity, by its exact name. -/
def severityOfData : Data → Typed Severity
  | .str t =>
    match t.text?.bind Severity.ofName? with
    | some s => .ok s
    | none => .fault .enum
  | _ => .fault .enum

open Data Typed in
def ofEntries (es : List (Data × Data)) : Typed ValueResult :=
  let valid := match field? es "is_valid".toList with
    | some d => (asBool d).under "is_valid".toList
    | none => (Typed.fault .missing).under "is_valid".toList
  let message := typeField es "message" none (asOptional asText)
  let severity := typeField es "severity" none (asOptional severityOfData)
  app (app (valid.map ValueResult.mk) message) severity

end ValueResult

/-- Why a value has no outcome. -/
inductive ValueFault where
  | unknownKey (key : Text)
  | check (fault : CheckFault)
deriving Repr, DecidableEq

namespace Schema

/-- Checks a value under its key, which has to be known. -/
def validateValue [Interpreter] (s : Schema) (key value : Text) : Except ValueFault ValueResult :=
  match s.lookup key with
  | none => .error (.unknownKey key)
  | some o =>
    match s.checkOption o value with
    | .error fault => .error (.check fault)
    | .ok none => .ok .accepted
    | .ok (some problem) =>
      .ok (.rejected (problem.message (Text.trim value)) o.problemSeverity)

end Schema
end ConfigLint
