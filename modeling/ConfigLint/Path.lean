import ConfigLint.Text
/-!
Paths of files. A path is kept in its normal form: empty steps and steps to the same place are
dropped, a step to the parent is kept. The normal form of a path is its text.
-/
namespace ConfigLint

/-- A path in normal form: how many slashes it starts with, and its steps. -/
structure Path where
  slashes : Nat
  steps : List Text
deriving Repr, DecidableEq

namespace Path

def parentStep : Text := ['.', '.']

def isStep (t : Text) : Bool := t != [] && t != ['.']

/-- The path that a text denotes. Two slashes in front are kept; any other number of them counts
    as one. -/
def ofText (t : Text) : Path :=
  let slashes := (t.takeWhile (· == '/')).length
  ⟨if slashes = 2 then 2 else min slashes 1, (t.splitOn '/').filter isStep⟩

/-- The text of a path; the path without steps is `.`. -/
def text (p : Path) : Text :=
  match p.slashes, p.steps with
  | 0, [] => ['.']
  | n, steps => List.replicate n '/' ++ Text.join ['/'] steps

/-- Whether a path has a null character, which no name of a file has. -/
def hasNull (p : Path) : Bool := p.steps.any fun step => step.contains '\x00'

end Path
end ConfigLint
