import ConfigLint.Pattern.Basic
/-!
Putting a pattern together from the parts that were read. What all alternatives start with is
taken out in front of them, and alternatives that take one character each become one set.
-/
namespace ConfigLint
namespace Pattern

/-- A part as it was read. A group without a number and without switches of its own only holds
    other parts together. -/
inductive Part where
  | whole (p : Pattern)
  | bare (parts : List Pattern)
deriving Repr

namespace Part

def parts : Part → List Pattern
  | whole p => [p]
  | bare parts => parts

/-- Whether a part may be repeated: anchors and repetitions may not. -/
def mayRepeat : Part → Bool
  | whole (.anchor _) | whole (.loop ..) => false
  | _ => true

end Part

/-- Whether two parts are known to be the same: those for one character, anchors, and texts of
    groups. -/
def same : Pattern → Pattern → Bool
  | letter a, letter b => a = b
  | anchor a, anchor b => a = b
  | again _ a, again _ b => a = b
  | _, _ => false

def commonStart : List Pattern → List (List Pattern) → List Pattern
  | [], _ => []
  | p :: first, others =>
    if others.all fun o => o.head?.any p.same then
      p :: commonStart first (others.map List.tail)
    else []

/-- The items of the set that an alternative is, if it takes one character of a set. -/
def setItems? : List Pattern → Option (List SetItem)
  | [letter l] =>
    match l.test with
    | .code false n => some [.code n]
    | .set false items => some items
    | _ => none
  | _ => none

/-- The parts that stand for a choice between alternatives. -/
def choice (m : Modes) : List (List Pattern) → List Pattern
  | [] => []
  | [only] => only
  | first :: others =>
    let start := commonStart first others
    let rests := (first :: others).map (List.drop start.length)
    match rests.mapM setItems? with
    | some items => start ++ [letter (.ofTest m (.set false items.flatten.eraseDups))]
    | none => start ++ [ofAlternatives (rests.map ofList)]

end Pattern
end ConfigLint
