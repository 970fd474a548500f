import ConfigLint.Text.CodePoint
/-!
The units of pattern text: single characters, and characters behind a backslash. Code points that
are no characters have no meaning of their own, with or without a backslash.
-/
namespace ConfigLint
namespace Pattern

/-- A unit of pattern text. `stray` is a backslash at the end of the text. -/
inductive Token where
  | plain (c : Char)
  | escaped (c : Char)
  | surrogate (offset : Fin 0x800)
  | escapedSurrogate (offset : Fin 0x800)
  | stray
deriving Repr, DecidableEq

namespace Token

def ofText : CodeText → List Token
  | [] => []
  | [.char '\\'] => [stray]
  | .char '\\' :: .char c :: rest => escaped c :: ofText rest
  | .char '\\' :: .surrogate n :: rest => escapedSurrogate n :: ofText rest
  | .char c :: rest => plain c :: ofText rest
  | .surrogate n :: rest => surrogate n :: ofText rest

def char? : Token → Option Char
  | plain c => some c
  | _ => none

/-- Whether a unit is a character without a backslash that satisfies `p`. -/
def isPlain (p : Char → Bool) (t : Token) : Bool := t.char?.any p

end Token
end Pattern
end ConfigLint
