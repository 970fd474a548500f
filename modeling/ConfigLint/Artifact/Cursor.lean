import ConfigLint.Text
/-!
A place in the text of an artifact, with the line and the column that indentation goes by, and
the line ends of the format.
-/
namespace ConfigLint
namespace Artifact

/-- A place in a text: what follows, and how many characters, lines and columns lie before. -/
structure Cursor where
  rest : Text
  index : Nat := 0
  line : Nat := 0
  column : Nat := 0
deriving Repr, DecidableEq

/-- Whether the line count goes up behind `c` in front of `next`. A carriage return in front of a
    line feed does not count; the line feed does. The other line breaks are not counted. -/
def endsLine (c : Char) (next : Option Char) : Bool :=
  c == '\n' || (c == '\r' && next != some '\n')

def isBreak (c : Char) : Bool :=
  c == '\r' || c == '\n' || c == '\u0085' || c == '\u2028' || c == '\u2029'

/-- Whether nothing more of a line follows: the text is at its end or at a line break. -/
def isEnd (next : Option Char) : Bool := next.all isBreak

def isGap (c : Char) : Bool := c == ' ' || c == '\t'

def isEndOrGap (next : Option Char) : Bool := isEnd next || next.any isGap

namespace Cursor

def peek (c : Cursor) : Option Char := c.rest.head?

/-- The place behind the next character. A byte order mark takes no column. -/
def step (c : Cursor) : Cursor :=
  match c.rest with
  | [] => c
  | ch :: rest =>
    if endsLine ch rest.head? then ⟨rest, c.index + 1, c.line + 1, 0⟩
    else if ch = '\ufeff' then ⟨rest, c.index + 1, c.line, c.column⟩
    else ⟨rest, c.index + 1, c.line, c.column + 1⟩

def steps : Nat → Cursor → Cursor
  | 0, c => c
  | n + 1, c => steps n c.step

def takeWhile (p : Char → Bool) (c : Cursor) : Text × Cursor :=
  let taken := c.rest.takeWhile p
  (taken, c.steps taken.length)

def skipWhile (p : Char → Bool) (c : Cursor) : Cursor := (c.takeWhile p).2

/-- The line break that follows, as one character, and the place behind it. A line separator and
    a paragraph separator stay what they are; every other break is a line feed. -/
def lineBreak? (c : Cursor) : Option (Char × Cursor) :=
  match c.rest with
  | '\r' :: '\n' :: _ => some ('\n', c.step.step)
  | ch :: _ =>
    if ch = '\u2028' ∨ ch = '\u2029' then some (ch, c.step)
    else if isBreak ch then some ('\n', c.step)
    else none
  | [] => none

/-- Whether a mark between documents follows: three dashes or three points, and then a gap or a
    line end. -/
def atMark (mark : Char) (c : Cursor) : Bool :=
  match c.rest with
  | a :: b :: d :: rest => a == mark && b == mark && d == mark && isEndOrGap rest.head?
  | _ => false

def atAnyMark (c : Cursor) : Bool := c.atMark '-' || c.atMark '.'

/-- The place of the next token: spaces, comments and line ends are skipped, inside brackets tabs
    too. The flag says whether a line has ended on the way. -/
def skipToToken (inFlow : Bool) : Nat → Cursor → Bool → Cursor × Bool
  | 0, c, ended => (c, ended)
  | fuel + 1, c, ended =>
    let c := c.skipWhile fun ch => ch == ' ' || (inFlow && ch == '\t')
    let c := if c.peek = some '#' then c.skipWhile fun ch => !isEnd (some ch) else c
    match c.lineBreak? with
    | some (_, next) => skipToToken inFlow fuel next true
    | none => (c, ended)

end Cursor
end Artifact
end ConfigLint
