import ConfigLint.Files
import ConfigLint.Schema.Refusal
import ConfigLint.Settings
import ConfigLint.Settings.EnvFile
/-!
Where settings come from. A setting is given as an argument, by a variable of the environment, or
by a variable of an environment file, in this order of precedence; otherwise it has its default.
-/
namespace ConfigLint

/-- What is raised where something does not type. -/
def Raised.ofTyping (faults : List TypeFault) : Raised :=
  ⟨"ValidationError".toList, TypeFault.message faults⟩

namespace Settings

def names : List Text :=
  ["schema_path".toList, "enable_diagnostics".toList, "show_platform_hints".toList,
    "diagnostic_severity".toList]

/-- The start of the names of the variables that settings are read from. -/
def variableLead : Text := "ghosttyconf_".toList

/-- The value of the variable of a setting. Case does not count in the names of variables; the
    last variable of the name wins. -/
def valueFor? {α : Type} (assigned : Table Text α) (name : Text) : Option α :=
  (assigned.entries.reverse.find? fun e => Text.lower e.1 == variableLead ++ name).map Prod.snd

def pathOfData : Data → Typed Path
  | .str t => (t.text?.map Path.ofText).elim (.fault .pathType) .ok
  | _ => .fault .pathType

open Data Typed in
def ofEntries (es : List (Data × Data)) : Typed Settings :=
  let path := typeField es "schema_path" none (asOptional pathOfData)
  let enabled := typeField es "enable_diagnostics" true asBool
  let hints := typeField es "show_platform_hints" true asBool
  let severity := typeField es "diagnostic_severity" (CodeText.ofText "Warning".toList) asText
  app (app (app (path.map Settings.mk) enabled) hints) severity

/-- What the sources give for a setting. -/
def given? (arguments : List (Data × Data)) (environment : Table Text Text)
    (file : Table Text (Option Text)) (name : Text) : Option Data :=
  let setting := (valueFor? environment name).or (valueFor? file name).join
  (Data.field? arguments name).or (setting.map fun t => .str (CodeText.ofText t))

/-- The settings that the sources give. -/
def ofSources (arguments : List (Data × Data)) (environment : Table Text Text)
    (file : Table Text (Option Text)) : Typed Settings :=
  ofEntries (names.filterMap fun name =>
    (given? arguments environment file name).map fun d => (.str (CodeText.ofText name), d))

def envFile : Path := .ofText ".env".toList

/-- The variables of the environment file, if there is one. What is no file is left alone, but a
    file has to be text. -/
def fileVariables (fs : Files) : Except EncodingFault (Table Text (Option Text)) :=
  match fs.find envFile with
  | .ok (.file (.text t)) => .ok (EnvFile.read t.unifyLineEnds)
  | .ok (.file (.binary fault)) => .error fault
  | _ => .ok .empty

def read (arguments : List (Data × Data)) (environment : Table Text Text) (fs : Files) :
    Except Raised Settings :=
  match fileVariables fs with
  | .error fault => .error ⟨"UnicodeDecodeError".toList, CodeText.ofText fault.message⟩
  | .ok assigned => (ofSources arguments environment assigned).mapError .ofTyping

end Settings
end ConfigLint
