import ConfigLint.Text.CodePoint
/-!
The kinds of value with a rule of their own. Every other type name is one that the schema itself
may declare.
-/
namespace ConfigLint

/-- The kinds of value that need no declaration. -/
inductive ValueKind where
  | boolean | number | string | enum | color | fontFamily | keybind | palette | duration | path
deriving Repr, DecidableEq

namespace ValueKind

def all : List ValueKind :=
  [boolean, number, string, enum, color, fontFamily, keybind, palette, duration, path]

def name : ValueKind → Text
  | boolean => "boolean".toList
  | number => "number".toList
  | string => "string".toList
  | enum => "enum".toList
  | color => "color".toList
  | fontFamily => "font-family".toList
  | keybind => "keybind".toList
  | palette => "palette".toList
  | duration => "duration".toList
  | path => "path".toList

def ofName? (t : CodeText) : Option ValueKind := all.find? fun k => CodeText.ofText k.name == t

end ValueKind
end ConfigLint
