import ConfigLint.Text
/-!
Runs of character names. The names of neighbouring characters have their first words in common
more often than not, so a name leaves out the words that it shares with the one before it.
-/
namespace ConfigLint

/-- The names of the characters from a first code point on, one after the other, some to a line
    with semicolons between them. A name starts with a digit of base 36, the number of words that
    it shares with the name before; the other words follow. -/
structure NameRun where
  first : Nat
  lines : List String
deriving Repr, DecidableEq

namespace NameRun

def digitValue (c : Char) : Nat := if c.isDigit then c.toNat - 48 else c.toNat - 55

/-- The words of a name that is written behind another one. -/
def wordsAfter (previous : List Text) : Text → List Text
  | [] => []
  | [d] => previous.take (digitValue d)
  | d :: rest => previous.take (digitValue d) ++ rest.splitOn ' '

/-- The code point of a name, given in words, among written names from the code point `code` on
    and behind the name `previous`. -/
def search (words : List Text) : List Text → Nat → List Text → Option Nat
  | [], _, _ => none
  | name :: rest, code, previous =>
    let found := wordsAfter previous name
    if found = words then some code else search words rest (code + 1) found

def find? (r : NameRun) (words : List Text) : Option Nat :=
  search words (r.lines.flatMap fun line => line.toList.splitOn ';') r.first []

end NameRun
end ConfigLint
