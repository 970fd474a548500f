import ConfigLint.Schema
import ConfigLint.Text.Blank
import ConfigLint.Value.Kind
/-!
Help for editors: completing keys and values, and describing an option.
-/
namespace ConfigLint

structure KeyCompletion where
  name : CodeText
  type : CodeText
  deprecated : Bool
deriving Repr, DecidableEq

namespace Schema

/-- The keys that start with a text, in order. Deprecated ones are left out unless asked for. -/
def completeKeys (s : Schema) (start : Text) (withDeprecated : Bool) : List KeyCompletion :=
  let lead := CodeText.ofText (Text.trim start)
  let matching := s.options.entries.filter fun e =>
    lead.isPrefixOf e.1 && (withDeprecated || !e.2.deprecated)
  (matching.map fun e => ⟨e.1, e.2.type, e.2.deprecated⟩).mergeSort
    fun a b => CodeText.atMost a.name b.name

def suggestedValues (s : Schema) (o : OptionDecl) : List CodeText :=
  if o.type = CodeText.ofText ValueKind.boolean.name then
    ["true", "false"].map fun w => CodeText.ofText w.toList
  else if o.values ≠ [] then o.values
  else
    match s.types.get? o.type with
    | some d => if d.values ≠ [] then d.values else d.examples
    | none => []

end Schema

namespace OptionDecl

/-- The text of the default value, if there is one that is not empty. -/
def defaultText (o : OptionDecl) : Except DigitFault (Option CodeText) :=
  match o.default with
  | .null | .str [] => .ok none
  | .bool b => .ok (some (CodeText.ofText (if b then "true" else "false").toList))
  | d => d.display.map some

end OptionDecl

namespace Schema

/-- The values that can be completed to for a key: those suggested, and the default value. -/
def completeValues (s : Schema) (key : Text) : Except DigitFault (List CodeText) :=
  match s.lookup key with
  | none => .ok []
  | some o =>
    let values := s.suggestedValues o
    o.defaultText.map fun default =>
      values ++ (default.filter fun t => !values.contains t).toList

def asCode (t : CodeText) : CodeText := ['\x60'] ++ t ++ ['\x60']

/-- The facts about an option that are listed below its description. -/
def optionFacts (s : Schema) (key : Text) (o : OptionDecl) (default : Option CodeText) :
    List CodeText :=
  (default.map fun t => CodeText.ofText "Default: ".toList ++ asCode t).toList ++
    (if o.values = [] then []
      else ["Values: ".toList ++ CodeText.join ", ".toList (o.values.map asCode)]) ++
    (if o.platforms = [] then []
      else ["Platforms: ".toList ++ CodeText.join ", ".toList o.platforms]) ++
    ((if s.isRepeatable key then ["May be specified multiple times".toList] else []) ++
      (if o.deprecated then ["*Deprecated*".toList] else [])).map CodeText.ofText

/-- What an editor shows about a key: the name and type, the description, and a list of facts. -/
def describe (s : Schema) (key : Text) : Except DigitFault (Option CodeText) :=
  match s.lookup key with
  | none => .ok none
  | some o =>
    o.defaultText.map fun default =>
      let facts := (s.optionFacts key o default).map fun t => CodeText.ofText "- ".toList ++ t
      let title := "**".toList ++ key ++ "** ".toList ++ asCode o.type
      let parts := title :: (if o.description = [] then [] else [o.description]) ++
        (if facts = [] then [] else [CodeText.join ['\n'] facts])
      some (CodeText.join "\n\n".toList parts)

end Schema
end ConfigLint
