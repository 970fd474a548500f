import ConfigLint.Decimal.Numeral
import ConfigLint.Interpreter
import ConfigLint.Pattern.Match
import ConfigLint.Pattern.Parser
import ConfigLint.Schema
import ConfigLint.Severity
import ConfigLint.Text.Quoted
import ConfigLint.Value.Color
import ConfigLint.Value.Duration
import ConfigLint.Value.Keybind
import ConfigLint.Value.Kind
import ConfigLint.Value.Palette
import ConfigLint.Value.Problem
/-!
Checking a value against its option: first the rule of its type, then the pattern of the option.
A check that meets a number too large to work with, or a pattern too deep to be read, has no verdict;
that is a `CheckFault`.
-/
namespace ConfigLint

/-- Why a check has no verdict. -/
inductive CheckFault where
  | digits (fault : DigitFault)
  | repeatTooLarge
  | clashingModes
  | reversedGroup
  | tooDeep
deriving Repr, DecidableEq

namespace CheckFault

def message : CheckFault → Text
  | digits fault => fault.message
  | repeatTooLarge => "the repetition number is too large".toList
  | clashingModes => "ASCII and UNICODE flags are incompatible".toList
  | reversedGroup =>
    "The span of capturing group is wrong, please report a bug for the re module.".toList
  | tooDeep => "maximum recursion depth exceeded".toList

/-- The fault that a pattern gives rise to; a malformed pattern gives none. -/
def ofPattern : PatternFault → Option CheckFault
  | .malformed => none
  | .repeatTooLarge => some repeatTooLarge
  | .repeatDigits fault => some (digits fault)
  | .clashingModes => some clashingModes

end CheckFault

/-- The verdict on a value: a problem, or none. -/
abbrev Verdict := Except CheckFault (Option ValueProblem)

/-- A problem, unless `ok` holds. -/
def rejectUnless (ok : Bool) (problem : ValueProblem) : Option ValueProblem :=
  if ok then none else some problem

/-- Whether `t` passes a pattern. No pattern, or the empty one, lets everything pass, and so does
    a malformed one. -/
def passes [Interpreter] (pattern : Option CodeText) (t : Text) : Except CheckFault Bool :=
  match pattern with
  | none | some [] => .ok true
  | some pattern =>
    if Interpreter.exhausts pattern then .error .tooDeep
    else
      match Pattern.ofText pattern with
      | .ok p =>
        match p.tryAll t with
        | .taken => .ok true
        | .notTaken => .ok false
        | .reversedGroup => .error .reversedGroup
      | .error fault =>
        match CheckFault.ofPattern fault with
        | none => .ok true
        | some fault => .error fault

namespace Constraints

def checkNumber (c : Constraints) (x : Binary64) : Option ValueProblem :=
  if c.integer && !x.isWhole then some .notWhole
  else
    match c.min.filter x.less with
    | some limit => some (.belowMinimum limit)
    | none => (c.max.filter (Binary64.less · x)).map .aboveMaximum

end Constraints

def checkNumber (c : Constraints) (t : Text) : Option ValueProblem :=
  match Numeral.ofText? t with
  | none => some .notNumber
  | some n => c.checkNumber (n.toBinary64 0)

/-- The problem with a value that should be one of `allowed`. Without any allowed values all are
    fine. -/
def checkListed (allowed : List CodeText) (t : Text) : Option ValueProblem :=
  let listed := (Text.unquote t).any fun t => allowed.contains (CodeText.ofText t)
  rejectUnless (allowed.isEmpty || listed) (.notListed allowed)

def checkKeybind (t : Text) : Option ValueProblem :=
  if t = "clear".toList then none
  else
    match Text.cut '=' t with
    | none => some .noBinding
    | some (trigger, action) =>
      let trigger := Text.trim trigger
      let action := Text.trim action
      if trigger = [] ∨ !Keybind.isTrigger trigger then some (.badTrigger trigger)
      else rejectUnless (Keybind.isAction action) (.badAction action)

def checkPalette (t : Text) : Verdict :=
  match PaletteEntry.ofText? t with
  | none => .ok (some .noPaletteEntry)
  | some entry =>
    match entry.index with
    | .error fault => .error (.digits fault)
    | .ok index =>
      if PaletteEntry.paletteSize ≤ index then .ok (some (.paletteIndex index))
      else .ok (rejectUnless (Color.accepts entry.color) (.paletteColor entry.color))

/-- The problem with a path. A question mark at the front marks a file that may be missing. -/
def checkPath (t : Text) : Option ValueProblem :=
  match Text.unquote t with
  | none => some .unbalancedPathQuotes
  | some path => rejectUnless (Text.trim (Text.dropLead path ['?']) ≠ []) .emptyPath

namespace OptionDecl

/-- The values that an option is limited to: its own, else those of its type. -/
def allowedValues (o : OptionDecl) (type : Option TypeDecl) : List CodeText :=
  if o.values ≠ [] then o.values else (type.map TypeDecl.values).getD []

/-- The verdict of a type that the schema declares. -/
def checkDeclared [Interpreter] (o : OptionDecl) (type : Option TypeDecl) (t : Text) : Verdict :=
  match type with
  | none => .ok none
  | some d =>
    if d.values ≠ [] then .ok (checkListed (o.allowedValues type) t)
    else (passes d.pattern t).map fun ok => rejectUnless ok (.notOfType o.type)

/-- The verdict of the option's type on a trimmed value. `type` is what the schema declares under
    the type's name. -/
def checkType [Interpreter] (o : OptionDecl) (type : Option TypeDecl) (t : Text) : Verdict :=
  match ValueKind.ofName? o.type with
  | none => o.checkDeclared type t
  | some .boolean => .ok (rejectUnless (t = "true".toList ∨ t = "false".toList) .notBoolean)
  | some .number => .ok (checkNumber o.constraints t)
  | some .string => .ok (rejectUnless (Text.unquote t).isSome .unbalancedQuotes)
  | some .enum => .ok (checkListed (o.allowedValues type) t)
  | some .color => .ok (rejectUnless ((Text.unquote t).any Color.accepts) .notColor)
  | some .fontFamily => .ok (rejectUnless (Text.unquote t).isSome .unbalancedFontQuotes)
  | some .keybind => .ok (checkKeybind t)
  | some .palette => checkPalette t
  | some .duration => .ok (rejectUnless (Duration.accepts t) .notDuration)
  | some .path => .ok (checkPath t)

/-- The verdict on a value: white space around it is ignored, its type is checked first and the
    pattern of the option second. -/
def check [Interpreter] (o : OptionDecl) (type : Option TypeDecl) (value : Text) : Verdict :=
  let t := Text.trim value
  match o.checkType type t with
  | .ok none => (passes o.constraints.pattern t).map fun ok => rejectUnless ok .notOfPattern
  | verdict => verdict

def problemSeverity (o : OptionDecl) : Severity := Severity.ofText .error o.constraints.severity

end OptionDecl

namespace Schema

def checkOption [Interpreter] (s : Schema) (o : OptionDecl) (value : Text) : Verdict :=
  o.check (s.types.get? o.type) value

end Schema
end ConfigLint
