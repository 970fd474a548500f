import ConfigLint.Text
/-!
Bytes that are meant as text in UTF-8, and where they cease to be it.
-/
namespace ConfigLint

inductive ByteTrouble where
  | badStart | badFollower | endsEarly
deriving Repr, DecidableEq

namespace ByteTrouble

def message : ByteTrouble → Text
  | badStart => "invalid start byte".toList
  | badFollower => "invalid continuation byte".toList
  | endsEarly => "unexpected end of data".toList

end ByteTrouble

/-- The first bytes that encode no character: where they stand, how many they are, and the first
    of them. -/
structure EncodingFault where
  place : Nat
  count : Nat
  lead : UInt8
  trouble : ByteTrouble
deriving Repr, DecidableEq

namespace EncodingFault

def message (f : EncodingFault) : Text :=
  let bytes :=
    if f.count = 1 then
      "byte 0x".toList ++ Nat.toDigits 16 f.lead.toNat ++ " in position ".toList ++
        Text.ofNat f.place
    else
      "bytes in position ".toList ++ Text.ofNat f.place ++ ['-'] ++
        Text.ofNat (f.place + f.count - 1)
  "'utf-8' codec can't decode ".toList ++ bytes ++ ": ".toList ++ f.trouble.message

/-- A character that is not complete: where its bytes start, the first of them, how many are to
    follow, and the bounds of the next one. -/
structure Partial where
  place : Nat
  lead : UInt8
  left : Nat
  low : UInt8 := 0x80
  high : UInt8 := 0xBF

/-- The character that a byte at a place starts, if it starts one of more than one byte. The
    bounds leave out longer spellings than needed, surrogates, and numbers of no code point. -/
def Partial.start? (place : Nat) (b : UInt8) : Option Partial :=
  if b < 0xC2 then none
  else if b < 0xE0 then some { place, lead := b, left := 1 }
  else if b = 0xE0 then some { place, lead := b, left := 2, low := 0xA0 }
  else if b = 0xED then some { place, lead := b, left := 2, high := 0x9F }
  else if b < 0xF0 then some { place, lead := b, left := 2 }
  else if b = 0xF0 then some { place, lead := b, left := 3, low := 0x90 }
  else if b < 0xF4 then some { place, lead := b, left := 3 }
  else if b = 0xF4 then some { place, lead := b, left := 3, high := 0x8F }
  else none

/-- What follows a byte of a character that is not complete. -/
def Partial.next? (p : Partial) : Option Partial :=
  if p.left = 1 then none else some { place := p.place, lead := p.lead, left := p.left - 1 }

/-- The fault of bytes from a place on, some of which may start in front of it. -/
def ofBytesFrom (place : Nat) : Option Partial → List UInt8 → EncodingFault
  | none, [] => ⟨place, 0, 0, .endsEarly⟩
  | some p, [] => ⟨p.place, place - p.place, p.lead, .endsEarly⟩
  | none, b :: rest =>
    if b < 0x80 then ofBytesFrom (place + 1) none rest
    else
      match Partial.start? place b with
      | none => ⟨place, 1, b, .badStart⟩
      | some p => ofBytesFrom (place + 1) (some p) rest
  | some p, b :: rest =>
    if p.low ≤ b ∧ b ≤ p.high then ofBytesFrom (place + 1) p.next? rest
    else ⟨p.place, place - p.place, p.lead, .badFollower⟩

def ofBytes (bytes : ByteArray) : EncodingFault := ofBytesFrom 0 none bytes.toList

end EncodingFault
end ConfigLint
