import ConfigLint.Artifact.Cursor
import ConfigLint.Artifact.Fault
/-!
Block scalars: text that keeps its lines (after `|`) or folds them (after `>`). The indentation of
the first line is taken off every line; what happens to line breaks at the end is up to a mark.
-/
namespace ConfigLint
namespace Artifact

/-- What becomes of the line breaks at the end of a block scalar: one stays, all are dropped, or
    all stay. -/
inductive Chomping where
  | clip | strip | keep
deriving Repr, DecidableEq

def chomping? (c : Cursor) : Option Chomping :=
  match c.peek with
  | some '+' => some .keep
  | some '-' => some .strip
  | _ => none

def indentDigit? (c : Cursor) : Option Nat :=
  c.peek.bind fun ch => if ch.isDigit then some (ch.toNat - 48) else none

/-- The header of a block scalar: its marks, in either order, a comment, and a line end. -/
def blockHeader (c : Cursor) : Reading (Chomping × Option Nat × Cursor) :=
  let (early, c) := match chomping? c with
    | some m => (some m, c.step)
    | none => (none, c)
  let (digit, c) := match indentDigit? c with
    | some n => (some n, c.step)
    | none => (none, c)
  let (late, c) := match early, digit, chomping? c with
    | none, some _, some m => (some m, c.step)
    | _, _, _ => (none, c)
  if digit = some 0 then .malformed
  else if !(c.peek.isNone || c.peek == some ' ' || c.peek.any isBreak) then .malformed
  else
    let c := c.skipWhile (· == ' ')
    let c := if c.peek = some '#' then c.skipWhile fun ch => !isEnd (some ch) else c
    if !isEnd c.peek then .malformed
    else .ok ((early.or late).getD .clip, digit, ((c.lineBreak?).map Prod.snd).getD c)

/-- Skips spaces while the column is less than `indent`. -/
def skipIndent (indent : Nat) : Nat → Cursor → Cursor
  | 0, c => c
  | fuel + 1, c =>
    if c.column < indent ∧ c.peek = some ' ' then skipIndent indent fuel c.step else c

def blockBreaks (indent : Nat) : Nat → Cursor → Text × Cursor
  | 0, c => ([], c)
  | fuel + 1, c =>
    let c := skipIndent indent indent c
    match c.lineBreak? with
    | none => ([], c)
    | some (b, next) =>
      let (breaks, c) := blockBreaks indent fuel next
      (b :: breaks, c)

/-- Empty lines at the start of a block scalar: the breaks, the greatest column met, and the
    column of the first break. -/
def leadingBreaks : Nat → Cursor → Nat → Option Nat → Text × Nat × Option Nat × Cursor
  | 0, c, widest, first => ([], widest, first, c)
  | fuel + 1, c, widest, first =>
    match c.peek with
    | some ' ' => leadingBreaks fuel c.step (max widest c.step.column) first
    | _ =>
      match c.lineBreak? with
      | none => ([], widest, first, c)
      | some (b, next) =>
        let (breaks, r) := leadingBreaks fuel next widest (first.or (some c.column))
        (b :: breaks, r)

/-- The text of a block scalar as far as it is read: what is certain (last character first), the
    break behind the last line, the empty lines after that, and the place. -/
structure BlockText where
  done : Text
  lastBreak : Option Char
  breaks : Text
  next : Cursor

/-- The break between two lines. In folded text a single line feed between two lines that start
    with something visible becomes a space, or nothing if empty lines follow. -/
def foldedBreak (folded visible : Bool) (lastBreak : Option Char) (breaks : Text) : Text :=
  if folded && visible && lastBreak == some '\n' then (if breaks = [] then [' '] else [])
  else lastBreak.toList

/-- Reads the lines of a block scalar. At the outermost level a mark between documents ends it. -/
def blockLines (folded outermost : Bool) (indent : Nat) : Nat → BlockText → BlockText
  | 0, b => b
  | fuel + 1, b =>
    let c := b.next
    if c.column = indent ∧ c.rest ≠ [] then
      let (line, afterLine) := c.takeWhile fun ch => !isEnd (some ch)
      let done := line.reverse ++ (b.breaks.reverse ++ b.done)
      let (lastBreak, next) := match afterLine.lineBreak? with
        | some (br, next) => (some br, next)
        | none => (none, afterLine)
      let (breaks, next) := blockBreaks indent fuel next
      if (outermost && next.column == 0 && next.atAnyMark) || next.column != indent ||
          next.rest.isEmpty then ⟨done, lastBreak, breaks, next⟩
      else
        let visible := !c.peek.any isGap && !next.peek.any isGap
        blockLines folded outermost indent fuel
          ⟨foldedBreak folded visible lastBreak breaks ++ done, lastBreak, breaks, next⟩
    else b

/-- Reads a block scalar whose mark follows, in a block of the given indentation. The characters
    left are `fuel` at most. -/
def readBlock (fuel : Nat) (folded : Bool) (parentIndent : Int) (c : Cursor) :
    Reading (Text × Cursor) := do
  let (chomping, digit, start) ← blockHeader c.step
  let least := (parentIndent + 1).toNat
  let (least, indent, breaks, start) ← match digit with
    | some n =>
      let least := max least 1
      let (breaks, next) := blockBreaks (least + n - 1) fuel start
      .ok (least, least + n - 1, breaks, next)
    | none =>
      let (breaks, widest, first, next) := leadingBreaks fuel start 0 none
      if first.any fun column => 0 < column && column < widest then .malformed
      else .ok (least, max least widest, breaks, next)
  let b := blockLines folded (least == 0) indent fuel ⟨[], none, breaks, start⟩
  let ending := match chomping with
    | .strip => []
    | .clip => b.lastBreak.toList
    | .keep => b.lastBreak.toList ++ b.breaks
  return (b.done.reverse ++ ending, b.next)

end Artifact
end ConfigLint
