import ConfigLint.Artifact.Cursor
/-!
Plain scalars: text without quotes. It ends at a comment, at a colon with a gap behind it, inside
brackets at a comma or bracket, and where the next line is indented too little. A line break
becomes a space, and empty lines become line feeds.
-/
namespace ConfigLint
namespace Artifact

def isFlowMark (c : Char) : Bool := ",[]\x7b\x7d".toList.contains c

/-- Whether `c` ends the run of a plain scalar in front of `next`. -/
def endsPlain (inFlow : Bool) (c : Char) (next : Option Char) : Bool :=
  if c = ':' then isEndOrGap next else isEndOrGap (some c) || (inFlow && isFlowMark c)

/-- The number of characters of the run of a plain scalar, of which `n` were met before. -/
def plainRun (inFlow : Bool) (n : Nat) : Text → Nat
  | [] => n
  | c :: rest => if endsPlain inFlow c rest.head? then n else plainRun inFlow (n + 1) rest

/-- The empty lines inside a plain scalar, each one a character; `none` when a document ends. -/
def plainBreaks : Nat → Cursor → Option Text × Cursor
  | 0, c => (some [], c)
  | fuel + 1, c =>
    let c := c.skipWhile (· == ' ')
    match c.lineBreak? with
    | none => (some [], c)
    | some (b, next) =>
      if next.atAnyMark then (none, next)
      else
        let (breaks, c) := plainBreaks fuel next
        (breaks.map (b :: ·), c)

/-- The text of white space behind a run: the place behind it, and whether a line has ended. No
    text means that the scalar ends. -/
def plainGap (fuel : Nat) (c : Cursor) : Text × Cursor × Bool :=
  let (gap, next) := c.takeWhile (· == ' ')
  match next.lineBreak? with
  | none => (gap, next, false)
  | some (b, next) =>
    if next.atAnyMark then ([], next, true)
    else
      match plainBreaks fuel next with
      | (none, c) => ([], c, true)
      | (some breaks, c) =>
        (if b ≠ '\n' then b :: breaks else if breaks = [] then [' '] else breaks, c, true)

/-- A plain scalar as it was read: its text, the place behind it and the white space after it,
    and whether that white space ends a line. -/
structure PlainText where
  text : Text
  next : Cursor
  lineEnded : Bool

/-- Reads runs and the white space between them; `gap` is the white space before, and `done` the
    text before that. Outside brackets a line indented less than `indent` ends the scalar. -/
def plainFrom (inFlow : Bool) (indent : Int) :
    Nat → Cursor → Bool → Text → Text → PlainText
  | 0, c, ended, _, done => ⟨done, c, ended⟩
  | fuel + 1, c, ended, gap, done =>
    let run := plainRun inFlow 0 c.rest
    if c.peek = some '#' ∨ run = 0 then ⟨done, c, ended⟩
    else
      let done := done ++ gap ++ c.rest.take run
      let (gap, next, ended) := plainGap fuel (c.steps run)
      if gap = [] ∨ next.peek = some '#' ∨ (!inFlow ∧ (next.column : Int) < indent) then
        ⟨done, next, ended⟩
      else plainFrom inFlow indent fuel next ended gap done

/-- Reads a plain scalar in a block of the given indentation. The characters left are `fuel` at
    most. -/
def readPlain (fuel : Nat) (inFlow : Bool) (indent : Int) (c : Cursor) : PlainText :=
  plainFrom inFlow (indent + 1) fuel c false [] []

def startsPlain (inFlow : Bool) (c : Cursor) : Bool :=
  match c.rest with
  | [] => false
  | ch :: rest =>
    let next := rest.head?
    !(isEndOrGap (some ch) || "-?:,[]\x7b\x7d#&*!|>'\"%@\x60".toList.contains ch) ||
      (ch == '-' && !isEndOrGap next) ||
      (ch == ':' && inFlow && !next.any isGap) ||
      (!inFlow && (ch == '?' || ch == ':') && !isEndOrGap next)

end Artifact
end ConfigLint
