import ConfigLint.Proofs.Acceptance
import ConfigLint.Proofs.Colors
import ConfigLint.Proofs.Quoting
/-!
The texts that are accepted as a colour. A name is looked up without its spaces and in lower case. The
names of the list are in ASCII, so of all characters that have a lower-case form only the capitals of ASCII
and the Kelvin sign can stand in a name for another one.

What is proved:
  1. `isName_iff`: a text is a name if the list has it once its spaces are dropped, its capitals are made
     small and a Kelvin sign is made a k. A foreign character is left as it is here, and is made
     something foreign where it is lower-cased, so neither way the list has it.
  2. `letter_of_spelling` and `spelling_congr`: which characters may stand in a name, and that spaces and
     case are all that two spellings of a name may differ in.
  3. `accepts_color_iff`: so an option for colours without a pattern accepts these and the hexadecimal
     digits, and nothing else.
-/
namespace ConfigLint
open Text

namespace Color

/-- How the list has a text if it is a name: without spaces, and in small letters. -/
def spelling (t : Text) : Text := (t.filter (· ≠ ' ')).map lowerLatin

/-- Two texts are alike if they differ in their spaces and in the case of ASCII letters only. -/
def Alike (t t' : Text) : Prop :=
  (t.filter (· ≠ ' ')).map Binary64.lowerAscii = (t'.filter (· ≠ ' ')).map Binary64.lowerAscii

section
variable {t t' : Text} {c : Char}

theorem ascii_of_isNameLetter (h : isNameLetter c = true) : c.toNat < 0x80 := by
  simp only [isNameLetter, Bool.or_eq_true, Bool.and_eq_true, decide_eq_true_eq] at h
  rcases h with ⟨-, hletter⟩ | ⟨-, hdigit⟩
  · exact ascii_of_le hletter (by decide)
  · exact ascii_of_le hdigit (by decide)

theorem not_mem_names_of_foreign (hc : c ∈ t) (hforeign : 0x80 ≤ c.toNat) : t ∉ names := by
  intro hmem
  have hascii := ascii_of_isNameLetter (isSpelt_of_mem_names hmem c hc)
  omega

theorem lowerLatin_of_foreign (h : ¬ IsLatin c) : lowerLatin c = c ∧ 0x80 ≤ c.toNat := by
  obtain ⟨hself, hcode⟩ := lowerAscii_of_foreign h
  rw [IsLatin, not_or] at h
  rw [lowerLatin, if_neg h.2]
  exact ⟨hself, hcode⟩

theorem lower_mem_names_iff : Text.lower t ∈ names ↔ t.map lowerLatin ∈ names := by
  by_cases hlatin : ∀ c ∈ t, IsLatin c
  · rw [lower_of_latin hlatin]
  · simp only [not_forall] at hlatin
    obtain ⟨c, hc, hforeign⟩ := hlatin
    obtain ⟨d, hd, hbeyond⟩ := exists_foreign_mem_lower hc hforeign
    obtain ⟨hself, hcode⟩ := lowerLatin_of_foreign hforeign
    have hmem : c ∈ t.map lowerLatin := List.mem_map.2 ⟨c, hc, hself⟩
    exact iff_of_false (not_mem_names_of_foreign hd hbeyond) (not_mem_names_of_foreign hmem hcode)

theorem isName_iff : isName t = true ↔ spelling t ∈ names := by
  rw [isName, List.contains_iff_mem, lower_mem_names_iff, spelling]

/-- The characters of a name: its spaces, letters and digits of ASCII, and Kelvin signs. -/
theorem letter_of_spelling (h : spelling t ∈ names) (hc : c ∈ t) :
    c = ' ' ∨ c = '\u212A' ∨ isNameLetter (Binary64.lowerAscii c) = true := by
  by_cases hspace : c = ' '
  · exact .inl hspace
  · right
    have hkept : c ∈ t.filter (· ≠ ' ') := List.mem_filter.2 ⟨hc, decide_eq_true hspace⟩
    have hletter := isSpelt_of_mem_names h _ (List.mem_map_of_mem hkept)
    by_cases hkelvin : c = '\u212A'
    · exact .inl hkelvin
    · rw [lowerLatin, if_neg hkelvin] at hletter
      exact .inr hletter

theorem lowerLatin_lowerAscii (c : Char) : lowerLatin (Binary64.lowerAscii c) = lowerLatin c := by
  by_cases hcapital : 'A' ≤ c ∧ c ≤ 'Z'
  · have hascii : c.toNat < 0x80 := ascii_of_le hcapital.2 (by decide)
    exact of_ascii (p := fun c => lowerLatin (Binary64.lowerAscii c) = lowerLatin c)
      (by decide +kernel) hascii
  · rw [Binary64.lowerAscii, if_neg hcapital]

theorem spelling_congr (h : Alike t t') : spelling t = spelling t' := by
  have hspelling : ∀ t, spelling t =
      ((t.filter (· ≠ ' ')).map Binary64.lowerAscii).map lowerLatin := by
    intro t
    rw [spelling, List.map_map]
    exact List.map_congr_left fun c _ => (lowerLatin_lowerAscii c).symm
  rw [hspelling, hspelling, h]

end
end Color

namespace Schema

/-- An option for colours that has no pattern accepts the values that hold hexadecimal digits, or a name
    once spaces are dropped, capitals are made small and a Kelvin sign is made a k. With a value that
    holds a name, it accepts all that differ from it in spaces and in the case of ASCII letters; and
    apart from spaces and the Kelvin sign a name is in letters and digits of ASCII. -/
theorem accepts_color_iff [Interpreter] (s : Schema) (o : OptionDecl) (value : Text)
    (kind : o.type = ValueKind.color.name) (plain : o.HasNoPattern) :
    (s.Accepts o value ↔
      ∃ u, IsContent value.trim u ∧ (Color.IsHex u ∨ Color.spelling u ∈ Color.names)) ∧
    (∀ u value' u', IsContent value.trim u → Color.spelling u ∈ Color.names →
      IsContent value'.trim u' → Color.Alike u u' → s.Accepts o value') ∧
    (∀ u, Color.spelling u ∈ Color.names → ∀ c ∈ u,
      c = ' ' ∨ c = '\u212A' ∨ Color.isNameLetter (Binary64.lowerAscii c) = true) := by
  have haccepts : ∀ value, s.Accepts o value ↔
      ∃ u, IsContent value.trim u ∧ (Color.IsHex u ∨ Color.spelling u ∈ Color.names) := by
    intro value
    rw [Accepts, checkOption_of_no_pattern plain]
    simp only [OptionDecl.checkType, kind, ValueKind.ofName?_name, Except.ok.injEq,
      rejectUnless_eq_none, Option.any_eq_true, unquote_eq_some, Color.accepts_iff,
      Color.isName_iff]
  refine ⟨haccepts value, ?_, fun u h c hc => Color.letter_of_spelling h hc⟩
  intro u value' u' _ hname hcontent halike
  rw [haccepts]
  exact ⟨u', hcontent, .inr (Color.spelling_congr halike ▸ hname)⟩

def oneColor : OptionDecl := { type := "color".toList }

/-- A name in quotes, with spaces around it and in it, capitals and a Kelvin sign. -/
theorem accepts_color_iff_kelvin :
    let value : Text := "\" Dar\u212A SLATE gray \"\t".toList
    oneColor.type = ValueKind.color.name ∧ oneColor.HasNoPattern ∧ fallback.Accepts oneColor value ∧
      fallback.Accepts oneColor "DAR\u212ASlateGRAY".toList := by
  intro value
  have hplain : oneColor.HasNoPattern := .inl rfl
  obtain ⟨hiff, halike, -⟩ := accepts_color_iff fallback oneColor value rfl hplain
  have hcontent : IsContent value.trim " Dar\u212A SLATE gray ".toList :=
    unquote_eq_some.1 (by decide +kernel)
  have hcontent' : IsContent (trim "DAR\u212ASlateGRAY".toList) "DAR\u212ASlateGRAY".toList :=
    unquote_eq_some.1 (by decide +kernel)
  have hname : Color.spelling " Dar\u212A SLATE gray ".toList ∈ Color.names := by
    decide +kernel
  have hsame : Color.Alike " Dar\u212A SLATE gray ".toList "DAR\u212ASlateGRAY".toList := by
    rw [Color.Alike]
    decide +kernel
  exact ⟨rfl, hplain, hiff.2 ⟨_, hcontent, .inr hname⟩, halike _ _ _ hcontent hname hcontent' hsame⟩

end Schema
end ConfigLint
