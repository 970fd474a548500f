import ConfigLint.Decimal.Numeral
import ConfigLint.Text.LowerCase
/-!
Lower case and ASCII. Lower-casing goes by a table, looks at the letters around a sigma, and makes two
characters of a capital I with a dot. As far as ASCII is concerned it is simple all the same: the
characters of ASCII go to characters of ASCII, the Kelvin sign goes to a k, and every other character
leaves one beyond ASCII behind.

What is proved:
  1. `lowerBetween_of_latin` and `exists_foreign`: this, of one character, whatever is around it. For the
     letters of the table it is read off the runs (`caseForm_cases`).
  2. `lower_of_latin` and `exists_foreign_mem_lower`: hence of texts.
-/
namespace ConfigLint

/-- The lower-case form of a letter of ASCII or of the Kelvin sign. Every other character is left as it
    is. -/
def lowerLatin (c : Char) : Char := if c = '\u212A' then 'k' else Binary64.lowerAscii c

/-- The characters whose lower-case form is in ASCII. -/
def IsLatin (c : Char) : Prop := c.toNat < 0x80 ∨ c = '\u212A'

instance (c : Char) : Decidable (IsLatin c) := inferInstanceAs (Decidable (_ ∨ _))

theorem of_ascii {p : Char → Prop} (h : ∀ n < 0x80, p (Char.ofNat n)) {c : Char} (hc : c.toNat < 0x80) :
    p c := by
  have hp : p (Char.ofNat c.toNat) := h c.toNat hc
  rwa [Char.ofNat_toNat] at hp

theorem ascii_of_le {c d : Char} (h : c ≤ d) (hd : d.toNat < 0x80) : c.toNat < 0x80 :=
  Nat.lt_of_le_of_lt (UInt32.le_iff_toNat_le.1 h) hd

theorem CodePoint.ofNat_of_scalar {n : Nat} (h : n.isValidChar) :
    CodePoint.ofNat n = .char (Char.ofNat n) := by
  rw [CodePoint.ofNat, dif_neg]
  rcases h with hlow | ⟨hhigh, -⟩ <;> omega

theorem toNat_ofNat_of_scalar {n : Nat} (h : n.isValidChar) : (Char.ofNat n).toNat = n := by
  rw [Char.ofNat, dif_pos h]
  rfl

theorem lowerAscii_of_foreign {c : Char} (h : ¬ IsLatin c) :
    Binary64.lowerAscii c = c ∧ 0x80 ≤ c.toNat := by
  rw [IsLatin, not_or, Nat.not_lt] at h
  refine ⟨?_, h.1⟩
  have hcapital : ¬ ('A' ≤ c ∧ c ≤ 'Z') := by
    intro hletter
    exact Nat.not_lt.2 h.1 (ascii_of_le hletter.2 (by decide))
  rw [Binary64.lowerAscii, if_neg hcapital]

/-! ## One character -/

theorem caseForm_cases (runs : List CaseRun) (n : Nat) : caseForm runs n = n ∨
    ∃ r ∈ runs, r.covers n = true ∧ caseForm runs n = r.target + (n - r.first) := by
  rw [caseForm]
  split
  · next r hfind =>
    have hcovers : r.covers n = true := by simpa using List.find?_some hfind
    exact .inr ⟨r, List.mem_of_find?_eq_some hfind, hcovers, rfl⟩
  · exact .inl rfl

/-- A run that does not come from ASCII does not lead there either, the one of the Kelvin sign and the
    one of the capital I with a dot aside, and leads to characters only. -/
theorem caseRuns_foreign : ∀ r ∈ caseRuns, r.last < 0x80 ∨ (r.first = 0x130 ∧ r.last = 0x130) ∨
    (r.first = 0x212A ∧ r.last = 0x212A) ∨ (0x80 ≤ r.target ∧
      (r.target + (r.last - r.first) < 0xD800 ∨
        (0xE000 ≤ r.target ∧ r.target + (r.last - r.first) < 0x110000))) := by
  decide +kernel

theorem lowerCode_foreign {c : Char} (h : ¬ IsLatin c) (hdot : c.toNat ≠ 0x130) :
    0x80 ≤ lowerCode c.toNat ∧ (lowerCode c.toNat).isValidChar := by
  rw [IsLatin, not_or, Nat.not_lt] at h
  obtain ⟨hforeign, hkelvin⟩ := h
  have hne : c.toNat ≠ 0x212A := by
    intro heq
    apply hkelvin
    rw [← Char.ofNat_toNat c, heq]
  rcases caseForm_cases caseRuns c.toNat with hself | ⟨r, hr, hcovers, hform⟩
  · rw [lowerCode, hself]
    exact ⟨hforeign, c.valid⟩
  · simp only [CaseRun.covers, Bool.and_eq_true, decide_eq_true_eq] at hcovers
    obtain ⟨⟨hfirst, hlast⟩, -⟩ := hcovers
    rw [lowerCode, hform]
    rcases caseRuns_foreign r hr with hascii | hdotted | hsign | ⟨htarget, hchars⟩
    · omega
    · omega
    · omega
    · refine ⟨by omega, ?_⟩
      rcases hchars with hlow | ⟨hstart, hend⟩
      · exact .inl (by omega)
      · exact .inr ⟨by omega, by omega⟩

section
variable {c : Char} {t : Text}

theorem lowerBetween_of_latin (h : IsLatin c) (before after : CodeText) :
    lowerBetween before (.char c) after = [.char (lowerLatin c)] := by
  have hplain : c.toNat ≠ 0x130 ∧ c.toNat ≠ 0x3A3 ∧
      CodePoint.ofNat (lowerCode c.toNat) = .char (lowerLatin c) := by
    rcases h with hascii | rfl
    · exact of_ascii (p := fun c => c.toNat ≠ 0x130 ∧ c.toNat ≠ 0x3A3 ∧
        CodePoint.ofNat (lowerCode c.toNat) = .char (lowerLatin c)) (by decide +kernel) hascii
    · decide +kernel
  rw [lowerBetween, CodePoint.toNat, if_neg hplain.1, if_neg hplain.2.1, hplain.2.2]

/-- Every other character leaves one beyond ASCII behind. -/
theorem exists_foreign (h : ¬ IsLatin c) (before after : CodeText) :
    ∃ d ∈ lowerBetween before (.char c) after, ∃ e : Char, d = .char e ∧ 0x80 ≤ e.toNat := by
  by_cases hdot : c.toNat = 0x130
  · rw [lowerBetween, CodePoint.toNat, if_pos hdot]
    exact ⟨.char '\u0307', by simp, '\u0307', rfl, by decide⟩
  · by_cases hsigma : c.toNat = 0x3A3
    · rw [lowerBetween, CodePoint.toNat, if_neg hdot, if_pos hsigma]
      refine ⟨_, List.mem_singleton_self _, _, rfl, ?_⟩
      split <;> decide
    · rw [lowerBetween, CodePoint.toNat, if_neg hdot, if_neg hsigma]
      obtain ⟨hforeign, hvalid⟩ := lowerCode_foreign h hdot
      refine ⟨_, List.mem_singleton_self _, _, CodePoint.ofNat_of_scalar hvalid, ?_⟩
      rwa [toNat_ofNat_of_scalar hvalid]

/-! ## Texts -/

/-- What each character leaves behind, wherever it stands, is in the text in lower case. -/
theorem exists_mem_lowerFrom {p : CodePoint → Prop} {d : CodePoint}
    (h : ∀ before after, ∃ e ∈ lowerBetween before d after, p e) {s : CodeText} (hd : d ∈ s)
    (before : CodeText) : ∃ e ∈ CodeText.lowerFrom before s, p e := by
  induction s generalizing before with
  | nil => cases hd
  | cons c s ih =>
    rw [CodeText.lowerFrom]
    rcases List.mem_cons.1 hd with rfl | hd
    · obtain ⟨e, he, hp⟩ := h before s
      exact ⟨e, List.mem_append_left _ he, hp⟩
    · obtain ⟨e, he, hp⟩ := ih hd (c :: before)
      exact ⟨e, List.mem_append_right _ he, hp⟩

theorem lowerFrom_of_latin (h : ∀ c ∈ t, IsLatin c) (before : CodeText) :
    CodeText.lowerFrom before (CodeText.ofText t) = CodeText.ofText (t.map lowerLatin) := by
  induction t generalizing before with
  | nil => rfl
  | cons c t ih =>
    obtain ⟨hc, ht⟩ := List.forall_mem_cons.1 h
    have hrest := ih ht (.char c :: before)
    simp only [CodeText.ofText, List.map_cons] at hrest ⊢
    rw [CodeText.lowerFrom, lowerBetween_of_latin hc, hrest, List.singleton_append]

theorem filterMap_char?_ofText (t : Text) : (CodeText.ofText t).filterMap CodePoint.char? = t := by
  have hsome : ∀ c : Char, CodePoint.char? (.char c) = some c := fun c => rfl
  rw [CodeText.ofText, List.filterMap_map]
  exact List.filterMap_some

theorem lower_of_latin (h : ∀ c ∈ t, IsLatin c) : Text.lower t = t.map lowerLatin := by
  rw [Text.lower, CodeText.lower, lowerFrom_of_latin h, filterMap_char?_ofText]

theorem exists_foreign_mem_lower (hc : c ∈ t) (h : ¬ IsLatin c) :
    ∃ d ∈ Text.lower t, 0x80 ≤ d.toNat := by
  have hmem : CodePoint.char c ∈ CodeText.ofText t := List.mem_map_of_mem hc
  obtain ⟨_, hd, e, rfl, he⟩ := exists_mem_lowerFrom (exists_foreign h) hmem []
  exact ⟨e, List.mem_filterMap.2 ⟨_, hd, rfl⟩, he⟩

end
end ConfigLint
