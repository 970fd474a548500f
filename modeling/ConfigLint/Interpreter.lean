import ConfigLint.Pattern.Token
/-!
What the interpreter has room for. It reads the groups of a pattern by recursion, and gives up on a
pattern whose groups are nested too deeply for what is left of its stack. How deep that is depends
on where it starts to read, so it is left open here.
-/
namespace ConfigLint

/-- The interpreter as far as it decides what can be read: whether a pattern takes more of the stack
    than is left. -/
class Interpreter where
  exhausts : CodeText → Bool

namespace Pattern

/-- The greatest number of parentheses that are open at once, where `now` are open and there were
    `most` before. -/
def nesting (now most : Nat) : List Token → Nat
  | [] => most
  | .plain '(' :: rest => nesting (now + 1) (max most (now + 1)) rest
  | .plain ')' :: rest => nesting (now - 1) most rest
  | _ :: rest => nesting now most rest

end Pattern

/-- The interpreter near the start of a program, which has room for so many open parentheses. -/
instance Interpreter.standard : Interpreter where
  exhausts pattern := 490 < Pattern.nesting 0 0 (Pattern.Token.ofText pattern)

end ConfigLint
