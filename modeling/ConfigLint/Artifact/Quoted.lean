import ConfigLint.Artifact.Cursor
import ConfigLint.Artifact.Fault
/-!
Quoted scalars. In single quotes only the quote itself is special; in double quotes a backslash
starts an escape. A quoted text may go over several lines: a line break becomes a space, and
empty lines become line feeds.
-/
namespace ConfigLint
namespace Artifact

def escapeOf? (c : Char) : Option Char :=
  [('0', '\x00'), ('a', '\x07'), ('b', '\x08'), ('t', '\t'), ('\t', '\t'), ('n', '\n'),
   ('v', '\x0b'), ('f', '\x0c'), ('r', '\r'), ('e', '\x1b'), (' ', ' '), ('"', '"'), ('/', '/'),
   ('\\', '\\'), ('N', '\u0085'), ('_', '\u00a0'), ('L', '\u2028'), ('P', '\u2029')].lookup c

def escapeLength? (c : Char) : Option Nat := [('x', 2), ('u', 4), ('U', 8)].lookup c

def hexDigit? (c : Char) : Option Nat :=
  if '0' ≤ c && c ≤ '9' then some (c.toNat - 48)
  else if 'a' ≤ c && c ≤ 'f' then some (c.toNat - 87)
  else if 'A' ≤ c && c ≤ 'F' then some (c.toNat - 55)
  else none

/-- The number that `n` hexadecimal digits at the front of a text denote. -/
def hexNumber? (n : Nat) (t : Text) : Option Nat :=
  let digits := (t.take n).filterMap hexDigit?
  if digits.length = n then some (digits.foldl (fun high d => 16 * high + d) 0) else none

/-- The code point of an escape by number, and the place behind it; `c` is the place behind the
    escape letter. Surrogates stay what they are, also in pairs. -/
def numberedEscape (length : Nat) (c : Cursor) : Reading (CodePoint × Cursor) :=
  match hexNumber? length c.rest with
  | none => .malformed
  | some n =>
    if 0x7FFFFFFF < n then .error (.scalar .hugeCodePoint)
    else if 0x10FFFF < n then .error (.scalar .codePoint)
    else .ok (.ofNat n, c.steps length)

/-- The empty lines inside a quoted scalar, each one a character. No document may end there. -/
def quotedBreaks : Nat → Cursor → Reading (Text × Cursor)
  | 0, _ => .malformed
  | fuel + 1, c =>
    if c.atAnyMark then .malformed
    else
      let c := c.skipWhile isGap
      match c.lineBreak? with
      | none => .ok ([], c)
      | some (b, next) => (quotedBreaks fuel next).map fun r => (b :: r.1, r.2)

/-- The text of white space inside a quoted scalar: white space itself within a line, a folded
    line break at the end of one. -/
def quotedGap (fuel : Nat) (c : Cursor) : Reading (Text × Cursor) :=
  let (gap, next) := c.takeWhile isGap
  match next.lineBreak? with
  | some (b, next) => do
    let (breaks, next) ← quotedBreaks fuel next
    return (if b ≠ '\n' then b :: breaks else if breaks = [] then [' '] else breaks, next)
  | none => .ok (gap, next)

/-- The text of an escape and the place behind it; `c` is the place behind the backslash. -/
def escapeText (fuel : Nat) (c : Cursor) : Reading (CodeText × Cursor) :=
  match c.peek with
  | none => .malformed
  | some ch =>
    match escapeOf? ch, escapeLength? ch, c.lineBreak? with
    | some d, _, _ => .ok ([.char d], c.step)
    | none, some n, _ => (numberedEscape n c.step).map fun r => ([r.1], r.2)
    | none, none, some (_, next) => (quotedBreaks fuel next).map fun r => (CodeText.ofText r.1, r.2)
    | none, none, none => .malformed

/-- The text up to the closing quote, and the place behind it; `done` is the text before, last
    character first. -/
def quotedFrom (double : Bool) : Nat → Cursor → CodeText → Reading (CodeText × Cursor)
  | 0, _, _ => .malformed
  | fuel + 1, c, done =>
    match c.rest with
    | [] => .malformed
    | '\'' :: '\'' :: _ =>
      if double then quotedFrom double fuel c.step (.char '\'' :: done)
      else quotedFrom double fuel c.step.step (.char '\'' :: done)
    | ch :: _ =>
      if ch = (if double then '"' else '\'') then .ok (done.reverse, c.step)
      else if double ∧ ch = '\\' then do
        let (t, next) ← escapeText fuel c.step
        quotedFrom double fuel next (t.reverse ++ done)
      else if isGap ch ∨ isBreak ch then do
        let (t, next) ← quotedGap fuel c
        quotedFrom double fuel next (CodeText.ofText t.reverse ++ done)
      else quotedFrom double fuel c.step (.char ch :: done)

/-- Reads a quoted scalar, whose opening quote follows. The characters left are `fuel` at most. -/
def readQuoted (fuel : Nat) (double : Bool) (c : Cursor) : Reading (CodeText × Cursor) :=
  quotedFrom double fuel c.step []

end Artifact
end ConfigLint
