import ConfigLint.Text
/-!
Texts of code points. What stands in a document or a file is made of characters. The escapes of
an artifact can spell surrogates too, which are code points and no characters; texts that come
from an artifact may hold them.
-/
namespace ConfigLint

/-- A code point: a character, or a surrogate, counted from the first one. -/
inductive CodePoint where
  | char (c : Char)
  | surrogate (offset : Fin 0x800)
deriving Repr, DecidableEq

namespace CodePoint

def toNat : CodePoint → Nat
  | char c => c.toNat
  | surrogate offset => 0xD800 + offset

/-- The code point with a number below 0x110000. -/
def ofNat (n : Nat) : CodePoint :=
  if h : 0xD800 ≤ n ∧ n < 0xE000 then surrogate ⟨n - 0xD800, by omega⟩ else char (Char.ofNat n)

def char? : CodePoint → Option Char
  | char c => some c
  | surrogate _ => none

end CodePoint

abbrev CodeText := List CodePoint

namespace CodeText

def ofText (t : Text) : CodeText := t.map .char

/-- The text of characters that a text is, if it holds no surrogate. -/
def text? (t : CodeText) : Option Text := t.mapM CodePoint.char?

def join (separator : Text) (parts : List CodeText) : CodeText :=
  List.intercalate (ofText separator) parts

/-- Whether `s` comes before `t` or equals it: by the first code point in which they differ, a
    text before those that go on longer. -/
def atMost : CodeText → CodeText → Bool
  | [], _ => true
  | _ :: _, [] => false
  | c :: s, d :: t => c.toNat < d.toNat || (c.toNat == d.toNat && atMost s t)

theorem ofText_injective {s t : Text} (h : ofText s = ofText t) : s = t := by
  induction s generalizing t with
  | nil => cases t <;> simp_all [ofText]
  | cons c s ih =>
    cases t with
    | nil => simp [ofText] at h
    | cons d t =>
      simp only [ofText, List.map_cons, List.cons.injEq, CodePoint.char.injEq] at h
      rw [h.1, ih h.2]

end CodeText

instance : Coe Text CodeText := ⟨CodeText.ofText⟩

end ConfigLint
