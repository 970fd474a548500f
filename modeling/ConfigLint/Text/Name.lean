import ConfigLint.Text.Name.Alias
import ConfigLint.Text.Name.Ancient
import ConfigLint.Text.Name.Asian
import ConfigLint.Text.Name.EastAsian
import ConfigLint.Text.Name.European
import ConfigLint.Text.Name.Form
import ConfigLint.Text.Name.MiddleEast
import ConfigLint.Text.Name.Musical
import ConfigLint.Text.Name.Phonetic
import ConfigLint.Text.Name.Picture
import ConfigLint.Text.Name.Rare
import ConfigLint.Text.Name.Symbol
/-!
The names of characters. Most are listed; those of Hangul syllables are put together from the
names of their letters, and those of ideographs end in their code point.
-/
namespace ConfigLint

def nameRuns : List NameRun :=
  europeanNames ++ middleEastNames ++ asianNames ++ phoneticNames ++ symbolNames ++
    eastAsianNames ++ formNames ++ ancientNames ++ rareNames ++ musicalNames ++ pictureNames

/-- The names of the letters that a Hangul syllable starts with. -/
def hangulLeads : List String :=
  ["G", "GG", "N", "D", "DD", "R", "M", "B", "BB", "S", "SS", "", "J", "JJ", "C", "K", "T", "P",
   "H"]

def hangulVowels : List String :=
  ["A", "AE", "YA", "YAE", "EO", "E", "YEO", "YE", "O", "WA", "WAE", "OE", "YO", "U", "WEO", "WE",
   "WI", "YU", "EU", "YI", "I"]

def hangulTails : List String :=
  ["", "G", "GG", "GS", "N", "NJ", "NH", "D", "L", "LG", "LM", "LB", "LS", "LT", "LP", "LH", "M",
   "B", "BS", "S", "SS", "NG", "J", "C", "K", "T", "P", "H"]

/-- The number of the longest of some letters that a text starts with, and what follows it. -/
def longestLead? (letters : List String) (t : Text) : Option (Nat × Text) :=
  let fitting := letters.zipIdx.filter fun e => e.1.toList.isPrefixOf t
  let longest := fitting.foldl (fun best e =>
    match best with
    | some (b : String × Nat) => if b.1.length < e.1.length then some e else best
    | none => some e) none
  longest.map fun e => (e.2, t.drop e.1.length)

/-- The Hangul syllable that is spelt by the names of its letters. -/
def hangulSyllable? (t : Text) : Option Nat := do
  let (lead, rest) ← longestLead? hangulLeads t
  let (vowel, rest) ← longestLead? hangulVowels rest
  let (tail, rest) ← longestLead? hangulTails rest
  if rest = [] then some (0xAC00 + (lead * 21 + vowel) * 28 + tail) else none

/-- The kinds of ideographs that are named by their code points, with the ranges of these. -/
def ideographRanges : List (String × List (Nat × Nat)) :=
  [("CJK UNIFIED IDEOGRAPH-",
    [(0x3400, 0x4DBF), (0x4E00, 0x9FFF), (0x20000, 0x2A6DF), (0x2A700, 0x2B738),
     (0x2B740, 0x2B81D), (0x2B820, 0x2CEA1), (0x2CEB0, 0x2EBE0), (0x30000, 0x3134A)]),
   ("CJK COMPATIBILITY IDEOGRAPH-", [(0xF900, 0xFA6D), (0xFA70, 0xFAD9), (0x2F800, 0x2FA1D)]),
   ("KHITAN SMALL SCRIPT CHARACTER-", [(0x18B00, 0x18CD5)]),
   ("NUSHU CHARACTER-", [(0x1B170, 0x1B2FB)])]

def codeOfDigits? (t : Text) : Option Nat :=
  if t.all fun c => c.isDigit || ('A' ≤ c && c ≤ 'F') then
    some (t.foldl (fun n c => 16 * n + NameRun.digitValue c) 0)
  else none

/-- The ideograph of a name. A unified ideograph may have a zero in front of its digits. -/
def ideograph? (t : Text) : Option Nat :=
  ideographRanges.findSome? fun (lead, ranges) =>
    if lead.toList.isPrefixOf t then
      let digits := t.drop lead.length
      (codeOfDigits? digits).filter fun n =>
        ranges.any (fun r => r.1 ≤ n && n ≤ r.2) &&
          (digits.length == (if n < 0x10000 then 4 else 5) ||
            (digits.length == 5 && lead == "CJK UNIFIED IDEOGRAPH-"))
    else none

/-- The selector of a variant whose second name ends in a number. -/
def variantSelector? (t : Text) : Option Nat :=
  match t with
  | 'V' :: 'S' :: digits =>
    let n := digits.foldl (fun n c => 10 * n + NameRun.digitValue c) 0
    if digits.all Char.isDigit && digits.head? != some '0' && 1 ≤ n && n ≤ 256 &&
        digits.length ≤ 3 then
      some (if n ≤ 16 then 0xFE00 + (n - 1) else 0xE0100 + (n - 17))
    else none
  | _ => none

def listedName? (t : Text) : Option Nat :=
  let words := t.splitOn ' '
  ((nameRuns.findSome? (·.find? words)).or (variantSelector? t)).or
    ((nameAliases.find? fun e => e.2.toList == t).map Prod.fst)

/-- The code point of a character name. The case of letters counts only for Hangul syllables and
    unified ideographs. -/
def codeOfName? (t : Text) : Option Nat :=
  let hangul := "HANGUL SYLLABLE ".toList
  if hangul.isPrefixOf t then hangulSyllable? (t.drop hangul.length)
  else if "CJK UNIFIED IDEOGRAPH-".toList.isPrefixOf t then ideograph? t
  else
    let upper := t.map Char.toUpper
    if "CJK UNIFIED IDEOGRAPH-".toList.isPrefixOf upper then none
    else (ideograph? upper).or (listedName? upper)

end ConfigLint
