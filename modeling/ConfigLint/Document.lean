import ConfigLint.Document.Line
import ConfigLint.Text.Blank
import ConfigLint.Text.Lines
/-!
Reading a configuration document. A line `key = value` is split at its first equals sign that no
backslash escapes; a line whose first visible character is `#` is a comment, a blank line is
empty, and what remains is invalid. Reading never fails, and every line of the text has its place
in the result.
-/
namespace ConfigLint

/-- The index of the first unescaped `=` of a text that starts at `index` and follows a run of
    `escapes` backslashes. -/
def separatorFrom (index escapes : Nat) : Text → Option Nat
  | [] => none
  | '\\' :: rest => separatorFrom (index + 1) (escapes + 1) rest
  | c :: rest =>
    if c = '=' ∧ escapes % 2 = 0 then some index else separatorFrom (index + 1) 0 rest

/-- The index of the first `=` that follows an even number of backslashes. -/
def separatorIndex? (t : Text) : Option Nat := separatorFrom 0 0 t

namespace Line

/-- The key/value line that is split at `separator`; `none` when there is nothing but white space
    before it. -/
def assignment? (raw : Text) (number : Int) (separator : Nat) : Option Line :=
  let lead : Text := raw.take separator
  let key := lead.trim
  if key = [] then none
  else
    let start := lead.length - lead.trimStart.length
    some { number := number
           raw := raw
           kind := .keyValue
           key := some key
           value := some (raw.drop (separator + 1))
           keySpan := some ⟨start, start + key.length⟩
           valueSpan := some ⟨separator + 1, raw.length⟩ }

def read (raw : Text) (number : Int) : Line :=
  let visible := raw.trim
  if visible = [] then { number := number, raw := raw, kind := .empty }
  else if visible.head? = some '#' then { number := number, raw := raw, kind := .comment }
  else
    ((separatorIndex? raw).bind (assignment? raw number)).getD
      { number := number, raw := raw, kind := .invalid }

end Line

/-- Reads lines that are numbered from `start`. -/
def readLinesFrom (start : Nat) (raws : List Text) : List Line :=
  raws.mapIdx fun i raw => Line.read raw (start + i : Nat)

/-- The lines of a document, in order and numbered from zero. -/
def readDocument (t : Text) : List Line := readLinesFrom 0 t.lines

end ConfigLint
