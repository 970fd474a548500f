import ConfigLint.Diagnostic.Basic
import ConfigLint.Diagnostic.Options
import ConfigLint.Document
import ConfigLint.Log
import ConfigLint.Value.Check
/-!
Checking a document against a schema. Each line is checked by itself, in order; then follow the
keys that are set more than once, key by key in the order of their first lines. A line whose
check has no verdict contributes nothing of its own and is recorded.
-/
namespace ConfigLint

namespace Schema

/-- The hint that an option does not exist on the current platform. -/
def platformFinding (options : CheckOptions) (key : Text) (o : OptionDecl) : Option Finding :=
  match options.platform with
  | none => none
  | some current =>
    let here := CodeText.ofText current.name
    if o.platforms = [] ∨ !options.platformHints ∨ here ∈ o.platforms then none
    else some (.platformMismatch key o.platforms current)

/-- What is wrong with the value of a line. A blank value resets the option and is never wrong. -/
def checkValue [Interpreter] (s : Schema) (o : OptionDecl) (line : Line) :
    Except CheckFault (Option Diagnostic) :=
  let value := line.value.getD []
  if Text.trim value = [] then .ok none
  else
    (s.checkOption o value).map fun problem =>
      problem.map fun p =>
        (Finding.invalidValue (Text.trim value) p).diagnostic o.problemSeverity line line.valueSpan

def checkKnown [Interpreter] (s : Schema) (options : CheckOptions) (line : Line) (key : Text)
    (o : OptionDecl) : Except CheckFault (List Diagnostic) :=
  let deprecated :=
    if o.deprecated then [(Finding.deprecatedKey key).diagnostic .hint line line.keySpan] else []
  let platform :=
    (platformFinding options key o).toList.map (·.diagnostic .info line line.keySpan)
  (s.checkValue o line).map fun value => deprecated ++ platform ++ value.toList

def checkLine [Interpreter] (s : Schema) (options : CheckOptions) (line : Line) :
    Except CheckFault (List Diagnostic) :=
  if line.kind = .invalid then .ok [Finding.invalidLine.diagnostic .error line none]
  else
    match line.key? with
    | none => .ok []
    | some key =>
      match s.lookup key with
      | none =>
        .ok [(Finding.unknownKey key).diagnostic options.unknownKeySeverity line line.keySpan]
      | some o => s.checkKnown options line key o

/-- The diagnostics of the lines that set a key, the first of them excepted. -/
def repeatedLines (key : Text) : List Line → List Diagnostic
  | [] => []
  | first :: rest =>
    rest.map fun line =>
      (Finding.duplicateKey key first.number).diagnostic .warning line line.keySpan

/-- Puts a line into the group of its key. A key without a group gets one behind the others, and
    a line without a key changes nothing. -/
def addToGroup (groups : Table Text (List Line)) (line : Line) : Table Text (List Line) :=
  match line.key? with
  | none => groups
  | some key => groups.insert key ((groups.get? key).getD [] ++ [line])

/-- The lines that set each key, keys in the order of their first lines. -/
def groupByKey (lines : List Line) : Table Text (List Line) := lines.foldl addToGroup .empty

/-- The diagnostics of keys that are set more than once without being repeatable. -/
def checkDuplicates (s : Schema) (lines : List Line) : List Diagnostic :=
  (groupByKey lines).entries.flatMap fun group =>
    if s.isRepeatable group.1 then [] else repeatedLines group.1 group.2

/-- The diagnostics of lines that each have a verdict. -/
def checkLines [Interpreter] (s : Schema) (options : CheckOptions) (lines : List Line) :
    List Diagnostic :=
  lines.flatMap fun line => (s.checkLine options line).toOption.getD []

/-- The records of lines that have none. -/
def skippedLines [Interpreter] (s : Schema) (options : CheckOptions) (lines : List Line) :
    List LogEvent :=
  lines.filterMap fun line =>
    match s.checkLine options line with
    | .ok _ => none
    | .error fault => some (.skippedLine line.number fault)

end Schema

structure CheckReport where
  diagnostics : List Diagnostic
  log : List LogEvent
deriving Repr, DecidableEq

def Schema.checkDocument [Interpreter] (s : Schema) (options : CheckOptions) (text : Text) :
    CheckReport :=
  if !options.enabled then ⟨[], []⟩
  else
    let lines := readDocument text
    let diagnostics := s.checkLines options lines ++ s.checkDuplicates lines
    ⟨diagnostics,
      s.skippedLines options lines ++ [.checkedDocument lines.length diagnostics.length]⟩

end ConfigLint
