import ConfigLint.Text.Blank
import ConfigLint.Text.Digit
import ConfigLint.Text.UpperCase
import ConfigLint.Text.Word
/-!
The parts of a pattern that take one character, and which characters they take. Without regard to
case a character is compared in lower case, but only by a part that has a letter in it: the
letters that share an upper-case letter then count as one.
-/
namespace ConfigLint

inductive CharKind where
  | digit | space | word
deriving Repr, DecidableEq

/-- A member of a character set. Single characters and the ends of ranges are code points; one
    that is no character is never met. -/
inductive SetItem where
  | code (code : Nat)
  | range (first last : Nat)
  | kind (kind : CharKind) (negated : Bool)
deriving Repr, DecidableEq

/-- The switches in force at a place of a pattern. -/
structure Modes where
  ignoreCase : Bool := false
  multiline : Bool := false
  dotAll : Bool := false
  verbose : Bool := false
  ascii : Bool := false
deriving Repr, DecidableEq

namespace CharKind

/-- Whether a code point is of the kind; with `ascii`, only ASCII characters are. -/
def holds (ascii : Bool) (c : Char) : CharKind → Bool
  | digit => if ascii then '0' ≤ c && c ≤ '9' else isDecimalDigit c
  | space => if ascii then (0x09 ≤ c.toNat && c.toNat ≤ 0x0D) || c == ' ' else isBlank c
  | word => if ascii then isAsciiWord c else isWord c

end CharKind

def asciiLower (n : Nat) : Nat := if 0x41 ≤ n ∧ n ≤ 0x5A then n + 0x20 else n

/-- The code points that count as the lower-case form `n` when case is ignored. -/
def foldedForms (n : Nat) : List Nat :=
  ((sharedUpper.find? (·.contains n)).getD [n]).flatMap raised

namespace Modes

def lower (m : Modes) (n : Nat) : Nat := if m.ascii then asciiLower n else lowerCode n

/-- The code points that have the lower-case form `n`, or count as if they had. -/
def forms (m : Modes) (n : Nat) : List Nat :=
  if !m.ascii then foldedForms n
  else if 0x61 ≤ n ∧ n ≤ 0x7A then [n, n - 0x20]
  else if 0x41 ≤ n ∧ n ≤ 0x5A then []
  else [n]

/-- Whether a code point is a letter, for which case matters. -/
def isLetter (m : Modes) (n : Nat) : Bool := if m.ascii then asciiLower n != n ||
  (0x61 ≤ n && n ≤ 0x7A) else isCased n

def anyLetter (m : Modes) (first last : Nat) : Bool :=
  if m.ascii then
    (max first 0x41 ≤ last && first ≤ 0x5A) || (max first 0x61 ≤ last && first ≤ 0x7A)
  else anyCased first last

end Modes

/-- The first code point behind the basic plane. Comparing without regard to case is simpler from
    there on. -/
def planeEnd : Nat := 0x10000

namespace SetItem

/-- Whether a set item takes `c` as it is. -/
def takes (m : Modes) (c : Char) : SetItem → Bool
  | code n => c.toNat == n
  | range first last => first ≤ c.toNat && c.toNat ≤ last
  | kind k negated => k.holds m.ascii c != negated

/-- Whether a set item asks for its character in lower case, when case is ignored. -/
def hasLetter (m : Modes) : SetItem → Bool
  | code n => m.isLetter n || planeEnd ≤ m.lower n
  | range first last => m.anyLetter first last || planeEnd ≤ last
  | kind .. => false

/-- Whether a set item takes a character whose lower-case form is `c`. Single code points behind
    the basic plane have to be `c` itself, and ranges that reach there are met by `c` or its
    upper-case form. -/
def takesLower (m : Modes) (c : Char) : SetItem → Bool
  | code n =>
    if planeEnd ≤ m.lower n then c.toNat == n else (m.forms c.toNat).contains n
  | range first last =>
    ((m.forms c.toNat).any fun n => first ≤ n && n ≤ last && n < planeEnd) ||
      (planeEnd ≤ last && ((first ≤ c.toNat && c.toNat ≤ last) ||
        (first ≤ upperCode c.toNat && upperCode c.toNat ≤ last)))
  | kind k negated => k.holds m.ascii c != negated

end SetItem

/-- What a part that takes one character asks of it. -/
inductive CharTest where
  | any
  | code (negated : Bool) (n : Nat)
  | set (negated : Bool) (items : List SetItem)
deriving Repr, DecidableEq

/-- A part that takes one character. It is `folding` if it compares the character in lower
    case. -/
structure Letter where
  modes : Modes
  test : CharTest
  folding : Bool
deriving Repr, DecidableEq

namespace Letter

/-- Whether a test has a letter in it. -/
def hasLetter (m : Modes) : CharTest → Bool
  | .any => false
  | .code _ n => m.isLetter n
  | .set _ items => items.any (·.hasLetter m)

/-- The part that asks for `test` under the switches. -/
def ofTest (m : Modes) (test : CharTest) : Letter :=
  ⟨m, test, m.ignoreCase && hasLetter m test⟩

/-- Whether the part takes `c`. -/
def takes (p : Letter) (c : Char) : Bool :=
  let low := if p.folding then Char.ofNat (p.modes.lower c.toNat) else c
  match p.test with
  | .any => p.modes.dotAll || c != '\n'
  | .code negated n =>
    (if p.folding then (p.modes.forms low.toNat).contains n else c.toNat == n) != negated
  | .set negated items =>
    (items.any fun item =>
      if p.folding then item.takesLower p.modes low else item.takes p.modes c) != negated

/-- The only character that the part takes, if it asks for one as it is. -/
def only? (p : Letter) : Option Nat :=
  match p.test with
  | .code false n => if p.folding then none else some n
  | _ => none

/-- Whether a place where the part does not take the next character can be left out without a
    try. -/
def skips (p : Letter) : Bool :=
  match p.test with
  | .any => false
  | .code negated _ => !negated && !p.folding
  | .set .. => !p.folding

/-- Whether counting the characters that the part takes moves the pointer of the run. -/
def movesPointer (p : Letter) : Bool :=
  p.folding &&
    match p.test with
    | .any => false
    | .code _ n => !p.modes.ascii && sharedUpper.any (·.contains (p.modes.lower n))
    | .set .. => true

end Letter
end ConfigLint
