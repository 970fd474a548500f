import ConfigLint.Pattern.Letter
/-!
Patterns of a schema: what their parts are, and how many characters a pattern can take. A pattern
is tried with backtracking, see `Pattern.Match`.
-/
namespace ConfigLint

/-- How often a repetition tries its body: as often as it can first, as rarely as it can first,
    or as often as it can without going back. -/
inductive Greed where
  | greedy | lazy | possessive
deriving Repr, DecidableEq

inductive Anchor where
  | textStart | textEnd
  | lineStart (multiline : Bool) | lineEnd (multiline : Bool)
  | boundary (ascii : Bool) | noBoundary (ascii : Bool)
deriving Repr, DecidableEq

/-- A pattern. Parts in sequence end in `nothing`, and alternatives in `never`. `scope` is a
    group without a number but with switches of its own. `look` starts so many characters `back`
    and takes none. -/
inductive Pattern where
  | nothing
  | never
  | letter (l : Letter)
  | anchor (a : Anchor)
  | seq (first second : Pattern)
  | either (first second : Pattern)
  | scope (body : Pattern)
  | group (number : Nat) (body : Pattern)
  | again (modes : Modes) (number : Nat)
  | loop (greed : Greed) (least : Nat) (most : Option Nat) (body : Pattern)
  | atomic (body : Pattern)
  | look (negated : Bool) (back : Nat) (body : Pattern)
  | ifGroup (number : Nat) (yes no : Pattern)
deriving Repr, DecidableEq

/-- The limit of repetitions, which no number in a pattern reaches. It stands for no bound. -/
def repeatLimit : Nat := 0xFFFFFFFF

/-- The least and the greatest number of characters that something can take, as far as they are
    kept track of. -/
structure Width where
  least : Nat
  most : Nat
deriving Repr, DecidableEq

namespace Width

/-- The width of one thing behind another. -/
def add (a b : Width) : Width := ⟨a.least + b.least, a.most + b.most⟩

/-- The width of one thing or another. -/
def join (a b : Width) : Width := ⟨min a.least b.least, max a.most b.most⟩

/-- The width of a repetition. -/
def times (a : Width) (least : Nat) (most : Option Nat) : Width :=
  ⟨a.least * least, a.most * most.getD repeatLimit⟩

/-- A width whose numbers stay within the limit. -/
def cap (a : Width) : Width := ⟨min a.least (repeatLimit - 1), min a.most repeatLimit⟩

end Width

namespace Pattern

def ofList (parts : List Pattern) : Pattern := parts.foldr .seq .nothing

/-- The pattern that takes one of some alternatives. -/
def ofAlternatives (alternatives : List Pattern) : Pattern := alternatives.foldr .either .never

/-- The width of a pattern, given the widths of the groups that are complete before it. -/
def width (groups : List (Nat × Width)) : Pattern → Width
  | nothing | anchor _ | look .. => ⟨0, 0⟩
  | never => ⟨repeatLimit - 1, 0⟩
  | letter _ => ⟨1, 1⟩
  | seq a b => (a.width groups).add (b.width groups)
  | either a b => (a.width groups).cap.join (b.width groups)
  | scope a | group _ a | atomic a => (a.width groups).cap
  | again _ n => (groups.lookup n).getD ⟨0, 0⟩
  | loop _ least most a => (a.width groups).cap.times least most
  | ifGroup _ a b => (a.width groups).cap.join (b.width groups).cap

/-- The part for one character that a pattern consists of, if it is one. -/
def single? : Pattern → Option Letter
  | letter l => some l
  | seq a nothing => a.single?
  | scope a => a.single?
  | _ => none

/-- The part for one character that a pattern starts with, if it does; `next` is the one behind
    the pattern. -/
def lead? (next : Option Letter) : Pattern → Option Letter
  | nothing => next
  | letter l => some l
  | seq a b => a.lead? (b.lead? next)
  | scope a => a.lead? next
  | _ => none

end Pattern

/-- A pattern for whole texts, and the least number of characters of the texts that it is tried
    on. -/
structure TextPattern where
  body : Pattern
  least : Nat
deriving Repr, DecidableEq

end ConfigLint
