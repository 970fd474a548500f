import ConfigLint.Text
/-!
White space: the characters that are trimmed from the ends of keys and values and that make a
line blank. It is the Unicode property together with the four information separators.
-/
namespace ConfigLint

/-- White space in the sense of the library: tab to carriage return, the four information
    separators, the space, next line, and the space separators of Unicode. -/
def isBlank (c : Char) : Bool :=
  let n := c.toNat
  (0x09 ≤ n && n ≤ 0x0D) || (0x1C ≤ n && n ≤ 0x20) || n == 0x85 || n == 0xA0 || n == 0x1680 ||
    (0x2000 ≤ n && n ≤ 0x200A) || n == 0x2028 || n == 0x2029 || n == 0x202F || n == 0x205F ||
    n == 0x3000

namespace Text

def trimStart (t : Text) : Text := t.dropWhile isBlank

def trimEnd (t : Text) : Text := t.dropEndWhile isBlank

def trim (t : Text) : Text := t.trimStart.trimEnd

end Text
end ConfigLint
