import ConfigLint.Proofs.Lowering
import ConfigLint.Proofs.Trim
import ConfigLint.Value.Color
/-!
The grammar of colours: hexadecimal digits, or a name of the list.

What is proved:
  1. `isHex_iff` and `accepts_iff`: what a colour is, by the parts of its text.
  2. `isSpelt_of_mem_names`: the list is written in small letters and digits.
  3. `eq_space_of_isName`: a name may hold spaces, but no other white space. Lower case leaves white
     space as it is (`mem_lower_of_blank`), and the list has none.
  4. `accepts_trimStart`: so a colour is still one without its leading white space.
-/
namespace ConfigLint
open Text

namespace Color

def IsHexDigit (c : Char) : Prop :=
  ('0' ≤ c ∧ c ≤ '9') ∨ ('a' ≤ c ∧ c ≤ 'f') ∨ ('A' ≤ c ∧ c ≤ 'F')

instance (c : Char) : Decidable (IsHexDigit c) := inferInstanceAs (Decidable (_ ∨ _))

/-- Three or six hexadecimal digits, behind a `#` or without one. -/
def IsHex (t : Text) : Prop :=
  ∃ digits, (t = digits ∨ t = '#' :: digits) ∧ (digits.length = 3 ∨ digits.length = 6) ∧
    ∀ c ∈ digits, IsHexDigit c

/-- No white space is in a text. -/
def IsVisible (t : Text) : Prop := ∀ c ∈ t, isBlank c = false

def isNameLetter (c : Char) : Bool := ('a' ≤ c && c ≤ 'z') || ('0' ≤ c && c ≤ '9')

def IsSpelt (t : Text) : Prop := ∀ c ∈ t, isNameLetter c = true

section
variable {t : Text} {c : Char}

theorem isHexDigit_iff : isHexDigit c = true ↔ IsHexDigit c := by
  simp [isHexDigit, IsHexDigit, or_assoc]

theorem isHex_iff : isHex t = true ↔ IsHex t := by
  have hdigits : isHex t = true ↔
      ((t.dropLead ['#']).length = 3 ∨ (t.dropLead ['#']).length = 6) ∧
        ∀ c ∈ t.dropLead ['#'], IsHexDigit c := by
    simp [isHex, isHexDigit_iff]
  have hlead : ∀ digits, dropLead ('#' :: digits) ['#'] = digits := by
    intro digits
    simp [dropLead]
  rw [hdigits]
  constructor
  · rintro ⟨hlength, hall⟩
    refine ⟨t.dropLead ['#'], ?_, hlength, hall⟩
    cases t with
    | nil => exact .inl rfl
    | cons c t =>
      by_cases hc : c = '#'
      · rw [hc, hlead]
        exact .inr rfl
      · have hkept : dropLead (c :: t) ['#'] = c :: t := by
          simp [dropLead, Ne.symm hc]
        exact .inl hkept.symm
  · rintro ⟨digits, rfl | rfl, hlength, hall⟩
    · -- no digit is a `#`, so there is none to take off
      have hkept : t.dropLead ['#'] = t := by
        cases t with
        | nil => rfl
        | cons c t =>
          have hc : '#' ≠ c := by
            rintro rfl
            exact absurd (hall '#' List.mem_cons_self) (by decide)
          simp [dropLead, hc]
      rw [hkept]
      exact ⟨hlength, hall⟩
    · rw [hlead]
      exact ⟨hlength, hall⟩

theorem accepts_iff : accepts t = true ↔ IsHex t ∨ isName t = true := by
  rw [accepts, Bool.or_eq_true, isHex_iff]

/-! ## White space in a colour -/

theorem not_isHexDigit_of_blank (h : isBlank c = true) : ¬ IsHexDigit c :=
  of_blank (p := fun c => ¬ IsHexDigit c) (by decide) h

theorem isVisible_of_isHex (h : IsHex t) : IsVisible t := by
  obtain ⟨digits, htext, -, hall⟩ := h
  have hdigits : IsVisible digits := by
    intro c hc
    cases hblank : isBlank c with
    | false => rfl
    | true => exact absurd (hall c hc) (not_isHexDigit_of_blank hblank)
  rcases htext with rfl | rfl
  · exact hdigits
  · exact List.forall_mem_cons.2 ⟨rfl, hdigits⟩

theorem lowerBetween_of_blank (h : isBlank c = true) (before after : CodeText) :
    lowerBetween before (.char c) after = [.char c] := by
  have hplain : c.toNat ≠ 0x130 ∧ c.toNat ≠ 0x3A3 ∧
      CodePoint.ofNat (lowerCode c.toNat) = CodePoint.char c :=
    of_blank (p := fun c => c.toNat ≠ 0x130 ∧ c.toNat ≠ 0x3A3 ∧
      CodePoint.ofNat (lowerCode c.toNat) = CodePoint.char c) (by decide +kernel) h
  rw [lowerBetween, CodePoint.toNat, if_neg hplain.1, if_neg hplain.2.1, hplain.2.2]

theorem mem_lower_of_blank (h : isBlank c = true) (hc : c ∈ t) : c ∈ Text.lower t := by
  have hchar : CodePoint.char c ∈ CodeText.ofText t := List.mem_map_of_mem hc
  have hkept : ∀ before after, ∃ d ∈ lowerBetween before (.char c) after, d = .char c := by
    intro before after
    rw [lowerBetween_of_blank h]
    exact ⟨_, List.mem_singleton_self _, rfl⟩
  obtain ⟨_, hmem, rfl⟩ := exists_mem_lowerFrom hkept hchar []
  exact List.mem_filterMap.2 ⟨.char c, hmem, rfl⟩

/-! ## The letters of the names -/

theorem isSpelt_of_all (h : t.all isNameLetter = true) : IsSpelt t := List.all_eq_true.1 h

theorem isSpelt_append {t' : Text} (h : IsSpelt t) (h' : IsSpelt t') : IsSpelt (t ++ t') :=
  List.forall_mem_append.2 ⟨h, h'⟩

/-- One name more. Stated of the characters of the name, so that checking it decodes no string. -/
theorem isSpelt_cons {names : List String} (ht : t.all isNameLetter = true)
    (h : ∀ name ∈ names, IsSpelt name.toList) :
    ∀ name ∈ String.ofList t :: names, IsSpelt name.toList := by
  refine List.forall_mem_cons.2 ⟨?_, h⟩
  rw [String.toList_ofList]
  exact isSpelt_of_all ht

theorem isSpelt_nil : ∀ name ∈ ([] : List String), IsSpelt name.toList :=
  List.forall_mem_nil _

theorem isSpelt_plainNames : ∀ name ∈ plainNames, IsSpelt name.toList := by
  unfold plainNames
  repeat refine isSpelt_cons rfl ?_
  exact isSpelt_nil

theorem isSpelt_numberedNames : ∀ name ∈ numberedNames, IsSpelt name.toList := by
  unfold numberedNames
  repeat refine isSpelt_cons rfl ?_
  exact isSpelt_nil

theorem isSpelt_greys : ∀ name ∈ ["gray", "grey"], IsSpelt name.toList :=
  isSpelt_cons rfl (isSpelt_cons rfl isSpelt_nil)

theorem isSpelt_ofNat {n : Nat} (h : n ≤ 100) : IsSpelt (Text.ofNat n) := by
  have hall : ∀ n ≤ 100, (Text.ofNat n).all isNameLetter = true := by decide
  exact isSpelt_of_all (hall n h)

theorem isSpelt_of_mem_names {name : Text} (h : name ∈ names) : IsSpelt name := by
  simp only [names, List.mem_append, List.mem_map, List.mem_flatMap] at h
  rcases h with (⟨plain, hmem, rfl⟩ | ⟨numbered, hmem, n, hn, rfl⟩) | ⟨grey, hmem, n, hn, rfl⟩
  · exact isSpelt_plainNames plain hmem
  · have hsmall : ∀ n ∈ [1, 2, 3, 4], n ≤ 100 := by decide
    exact isSpelt_append (isSpelt_numberedNames numbered hmem) (isSpelt_ofNat (hsmall n hn))
  · have hsmall : n ≤ 100 := Nat.le_of_lt_succ (List.mem_range.1 hn)
    exact isSpelt_append (isSpelt_greys grey hmem) (isSpelt_ofNat hsmall)

theorem isNameLetter_of_blank (h : isBlank c = true) : isNameLetter c = false :=
  of_blank (p := fun c => isNameLetter c = false) (by decide) h

theorem eq_space_of_isName (h : isName t = true) (hc : c ∈ t) (hblank : isBlank c = true) :
    c = ' ' := by
  by_contra hne
  have hkept : c ∈ t.filter (· ≠ ' ') := List.mem_filter.2 ⟨hc, decide_eq_true hne⟩
  have hlower : c ∈ Text.lower (t.filter (· ≠ ' ')) := mem_lower_of_blank hblank hkept
  have hletter := isSpelt_of_mem_names (List.contains_iff_mem.1 h) c hlower
  rw [isNameLetter_of_blank hblank] at hletter
  cases hletter

theorem no_feed_of_accepts (h : accepts t = true) : '\n' ∉ t := by
  intro hfeed
  rcases accepts_iff.1 h with hhex | hname
  · have hvisible := isVisible_of_isHex hhex '\n' hfeed
    cases hvisible
  · have hspace := eq_space_of_isName hname hfeed rfl
    cases hspace

theorem accepts_trimStart (h : accepts t = true) : accepts t.trimStart = true := by
  obtain ⟨lead, htext, hlead⟩ := exists_trimStart t
  rcases accepts_iff.1 h with hhex | hname
  · have hhead : ∀ c ∈ t.head?, isBlank c = false :=
      fun c hc => isVisible_of_isHex hhex c (List.mem_of_mem_head? hc)
    rwa [trimStart_of_head hhead]
  · have hspaces : lead.filter (· ≠ ' ') = [] := by
      rw [List.filter_eq_nil_iff]
      intro c hc
      have hmem : c ∈ t := by
        rw [htext]
        exact List.mem_append_left _ hc
      simp [eq_space_of_isName hname hmem (hlead c hc)]
    have hsame : t.filter (· ≠ ' ') = t.trimStart.filter (· ≠ ' ') := by
      conv_lhs => rw [htext, List.filter_append, hspaces, List.nil_append]
    rw [accepts_iff]
    right
    rwa [isName, ← hsame]

end
end Color
end ConfigLint
