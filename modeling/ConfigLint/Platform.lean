import ConfigLint.Text
/-!
The platforms an option may be limited to, and the systems they stand for.
-/
namespace ConfigLint

inductive Platform where
  | macos | linux
deriving Repr, DecidableEq

namespace Platform

def name : Platform → Text
  | macos => "macos".toList
  | linux => "linux".toList

def ofName? (t : Text) : Option Platform := [macos, linux].find? fun p => p.name == t

/-- The platform of a system that reports itself by this name; `none` for other systems. -/
def ofSystem? (t : Text) : Option Platform :=
  [("Darwin".toList, macos), ("Linux".toList, linux)].lookup t

end Platform
end ConfigLint
