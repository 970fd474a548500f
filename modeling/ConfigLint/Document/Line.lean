import ConfigLint.Text
/-!
The lines of a configuration document: what kind each one is, and where its key and value stand.
-/
namespace ConfigLint

/-- The four kinds of line. -/
inductive LineKind where
  | keyValue | comment | empty | invalid
deriving Repr, DecidableEq

/-- The characters of a line from offset `start` up to, not including, offset `stop`. -/
structure Span where
  start : Int
  stop : Int
deriving Repr, DecidableEq

def Span.length (s : Span) : Int := s.stop - s.start

/-- One line of a document. Lines are numbered from zero. The key, the value and their places are
    set on lines of kind `keyValue`; the value is all that follows the separator, white space
    included. -/
structure Line where
  number : Int
  raw : Text
  kind : LineKind
  key : Option Text := none
  value : Option Text := none
  keySpan : Option Span := none
  valueSpan : Option Span := none
deriving Repr, DecidableEq

namespace Line

/-- The key of a key/value line, if it has one that is not empty. -/
def key? (l : Line) : Option Text :=
  if l.kind = .keyValue then l.key.filter (· ≠ []) else none

def isKeyValue (l : Line) : Bool := l.key?.isSome

def wholeSpan (l : Line) : Span := ⟨0, l.raw.length⟩

/-- The key under the cursor at offset `character`, the offset right behind the key included. -/
def keyAt (l : Line) (character : Int) : Option Text :=
  match l.key?, l.keySpan with
  | some key, some span =>
    if span.start ≤ character ∧ character ≤ span.stop then some key else none
  | _, _ => none

end Line
end ConfigLint
