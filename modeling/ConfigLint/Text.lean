/-!
Texts as lists of characters, and the few operations on them that the other modules share.
All offsets and lengths of the library count characters, so a text is a list of them.
-/
namespace ConfigLint

/-- A text, one element for each Unicode code point. -/
abbrev Text := List Char

namespace Text

def dropEndWhile (p : Char → Bool) (t : Text) : Text :=
  (t.reverse.dropWhile p).reverse

/-- `t` without the leading `lead`; `t` itself when it starts with something else. -/
def dropLead (t lead : Text) : Text :=
  if lead.isPrefixOf t then t.drop lead.length else t

/-- The part before the first `c` and the part after it; `none` when there is no `c`. -/
def cut (c : Char) : Text → Option (Text × Text)
  | [] => none
  | d :: rest =>
    if d = c then some ([], rest)
    else (cut c rest).map fun parts => (d :: parts.1, parts.2)

/-- The texts one after the other, with `separator` between neighbours. -/
def join (separator : Text) (parts : List Text) : Text :=
  List.intercalate separator parts

def ofNat (n : Nat) : Text := Nat.toDigits 10 n

/-- The decimal digits of an integer, after a `-` if it is negative. -/
def ofInt : Int → Text
  | .ofNat n => ofNat n
  | .negSucc n => '-' :: ofNat (n + 1)

/-- Pieces of three characters each, the last one of at most three. -/
def triples : Text → List Text
  | a :: b :: c :: d :: rest => [a, b, c] :: triples (d :: rest)
  | t => [t]

/-- The decimal digits of `n`, with a comma before every group of three counted from the right. -/
def grouped (n : Nat) : Text :=
  (join [','] (triples (ofNat n).reverse)).reverse

/-- Whether `c` lies in one of the closed ranges of code points. -/
def inRanges (ranges : List (Nat × Nat)) (c : Char) : Bool :=
  ranges.any fun r => r.1 ≤ c.toNat && c.toNat ≤ r.2

end Text
end ConfigLint
