import ConfigLint.Decimal.Numeral
import ConfigLint.Schema
/-!
Typing plain data as a schema. Typing is lenient where a text or a number can only mean one
thing, and it reports all faults, each with the place where it is. What is not known is ignored.
-/
namespace ConfigLint

/-- What is wrong at one place. -/
inductive FaultKind where
  | stringType | boolType | boolParsing | floatType | floatParsing
  | listType | dictType | modelType | pathType | enum | missing
deriving Repr, DecidableEq

namespace FaultKind

def name : FaultKind → Text
  | stringType => "string_type".toList
  | boolType => "bool_type".toList
  | boolParsing => "bool_parsing".toList
  | floatType => "float_type".toList
  | floatParsing => "float_parsing".toList
  | listType => "list_type".toList
  | dictType => "dict_type".toList
  | modelType => "model_type".toList
  | pathType => "path_type".toList
  | enum => "enum".toList
  | missing => "missing".toList

end FaultKind

/-- A fault and its place, from the outside in. -/
structure TypeFault where
  place : List CodeText
  kind : FaultKind
deriving Repr, DecidableEq

namespace TypeFault

/-- A fault in one row: its place, with points between the steps, and its name. -/
def row (f : TypeFault) : CodeText :=
  CodeText.join ['.'] f.place ++ ": ".toList ++ f.kind.name

/-- All faults in one text, the rows in order. -/
def message (faults : List TypeFault) : CodeText :=
  CodeText.join "; ".toList ((faults.map row).mergeSort CodeText.atMost)

end TypeFault

/-- A typed value, or all faults that were found. -/
abbrev Typed (α : Type) := Except (List TypeFault) α

namespace Typed

variable {α β : Type}

def fault (kind : FaultKind) : Typed α := .error [⟨[], kind⟩]

/-- The same, one step further in. -/
def under (step : CodeText) (x : Typed α) : Typed α :=
  x.mapError fun faults => faults.map fun f => { f with place := step :: f.place }

/-- Applies a typed function to a typed value; the faults of both are kept. -/
def app (f : Typed (α → β)) (x : Typed α) : Typed β :=
  match f, x with
  | .ok f, .ok a => .ok (f a)
  | .error e, .ok _ => .error e
  | .ok _, .error e => .error e
  | .error e, .error e' => .error (e ++ e')

def all : List (Typed α) → Typed (List α)
  | [] => .ok []
  | x :: rest => app (x.map List.cons) (all rest)

end Typed

namespace Data

def wordLimit : Int := 0x8000000000000000

/-- The integers of 64 bits. -/
def isWord (i : Int) : Bool := -wordLimit ≤ i && i < wordLimit

def asText : Data → Typed CodeText
  | str t => .ok t
  | _ => .fault .stringType

/-- The texts that mean yes and those that mean no. -/
def truthWords : List (Text × Bool) :=
  (["true", "t", "yes", "y", "on", "1"].map fun w => (w.toList, true)) ++
    ["false", "f", "no", "n", "off", "0"].map fun w => (w.toList, false)

/-- The truth value that a whole number means. -/
def truthOfInt (i : Int) : Typed Bool :=
  if !isWord i then .fault .boolType
  else if i = 0 then .ok false
  else if i = 1 then .ok true
  else .fault .boolParsing

def asBool : Data → Typed Bool
  | bool b => .ok b
  | int i => truthOfInt i
  | float x =>
    match x.toInt? with
    | some i => if i = -wordLimit then .fault .boolType else truthOfInt i
    | none => .fault .boolType
  | str t =>
    match t.text?.bind fun t => truthWords.lookup (t.map Binary64.lowerAscii) with
    | some b => .ok b
    | none => .fault .boolParsing
  | _ => .fault .boolType

def asFloat : Data → Typed Binary64
  | bool b => .ok (.ofBool b)
  | int i =>
    match Binary64.ofInt i with
    | .infinity _ => .fault .floatType
    | x => .ok x
  | float x => .ok x
  | str t =>
    match t.text?.bind Binary64.ofText? with
    | some x => .ok x
    | none => .fault .floatParsing
  | _ => .fault .floatType

def asOptional {α : Type} (type : Data → Typed α) : Data → Typed (Option α)
  | null => .ok none
  | d => (type d).map some

def asTexts : Data → Typed (List CodeText)
  | list items => .all (items.mapIdx fun i d => (asText d).under (Text.ofNat i))
  | _ => .fault .listType

/-- The value under a name in the entries of a mapping. -/
def field? (entries : List (Data × Data)) (name : Text) : Option Data :=
  entries.findSome? fun e =>
    match e.1 with
    | str key => if key = CodeText.ofText name then some e.2 else none
    | _ => none

/-- Types the value under a name; without one, `fallback` takes its place. -/
def typeField {α : Type} (entries : List (Data × Data)) (name : String) (fallback : α)
    (type : Data → Typed α) : Typed α :=
  match field? entries name.toList with
  | some d => (type d).under name.toList
  | none => .ok fallback

/-- The text that stands for a key in the place of a fault. -/
def keyStep (d : Data) : CodeText :=
  match d.display with
  | .ok t => t
  | .error _ => []

def asTable {α : Type} (type : Data → Typed α) : Data → Typed (Table CodeText α)
  | map entries =>
    (Typed.all (entries.map fun e =>
      let step := keyStep e.1
      let key := ((asText e.1).under "[key]".toList).under step
      Typed.app (key.map Prod.mk) ((type e.2).under step))).map Table.ofList
  | _ => .fault .dictType

def asRecord {α : Type} (type : List (Data × Data) → Typed α) : Data → Typed α
  | map entries => type entries
  | _ => .fault .modelType

end Data

open Data Typed

def Constraints.ofData : Data → Typed Constraints :=
  asRecord fun es =>
    let min := typeField es "min" none (asOptional asFloat)
    let max := typeField es "max" none (asOptional asFloat)
    let integer := typeField es "integer" false asBool
    let pattern := typeField es "pattern" none (asOptional asText)
    let severity := typeField es "severity" none (asOptional asText)
    app (app (app (app (min.map Constraints.mk) max) integer) pattern) severity

def OptionDecl.ofData : Data → Typed OptionDecl :=
  asRecord fun es =>
    let type := typeField es "type" (CodeText.ofText "string".toList) asText
    let description := typeField es "description" [] asText
    let default := typeField es "default" .null .ok
    let deprecated := typeField es "deprecated" false asBool
    let platforms := typeField es "platforms" [] asTexts
    let repeatable := typeField es "repeatable" false asBool
    let values := typeField es "values" [] asTexts
    let constraints := typeField es "constraints" {} Constraints.ofData
    app (app (app (app (app (app (app (type.map OptionDecl.mk) description) default) deprecated)
      platforms) repeatable) values) constraints

def TypeDecl.ofData : Data → Typed TypeDecl :=
  asRecord fun es =>
    let description := typeField es "description" [] asText
    let values := typeField es "values" [] asTexts
    let pattern := typeField es "pattern" none (asOptional asText)
    let examples := typeField es "examples" [] asTexts
    app (app (app (description.map TypeDecl.mk) values) pattern) examples

/-- The name of the list of repeatable keys. There are two; the first one wins. -/
def repeatableField (entries : List (Data × Data)) : String :=
  if (field? entries "repeatableKeys".toList).isSome then "repeatableKeys" else "repeatable_keys"

def Schema.ofData : Data → Typed Schema :=
  asRecord fun es =>
    let version := typeField es "version" (CodeText.ofText "0.0.0".toList) asText
    let description := typeField es "description" [] asText
    let options := typeField es "options" .empty (asTable OptionDecl.ofData)
    let types := typeField es "types" .empty (asTable TypeDecl.ofData)
    let repeatableKeys := typeField es (repeatableField es) [] asTexts
    app (app (app (app (version.map Schema.mk) description) options) types) repeatableKeys

end ConfigLint
