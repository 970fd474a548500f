import ConfigLint.Proofs.Lowering
import ConfigLint.Proofs.Trim
import ConfigLint.Value.Check
/-!
The severities that people write. `Spells` is the table of their names, which may stand between white
space and in letters of any case; `IsChosen` is what a schema chooses by such a text, or by another.

What is proved:
  1. `lower_eq_iff`: a text is lower-cased to a word of ASCII without a k just if making its capitals
     small gives the word. No character beyond ASCII comes into it.
  2. `ofText_eq_iff`: reading a severity gives the one that is chosen.
-/
namespace ConfigLint
open Text

theorem Text.lower_eq_iff {t word : Text} (hascii : ∀ c ∈ word, c.toNat < 0x80) (hk : 'k' ∉ word) :
    lower t = word ↔ t.map Binary64.lowerAscii = word := by
  by_cases hlatin : ∀ c ∈ t, IsLatin c
  · -- the Kelvin sign is the one letter that the two make different things of
    rw [lower_of_latin hlatin]
    by_cases hkelvin : '\u212A' ∈ t
    · have hletter : 'k' ∈ t.map lowerLatin := List.mem_map.2 ⟨_, hkelvin, by decide⟩
      have hsign : '\u212A' ∈ t.map Binary64.lowerAscii := List.mem_map.2 ⟨_, hkelvin, by decide⟩
      refine iff_of_false ?_ ?_
      · intro heq
        exact hk (heq ▸ hletter)
      · intro heq
        exact absurd (hascii _ (heq ▸ hsign)) (by decide)
    · have hsame : t.map lowerLatin = t.map Binary64.lowerAscii := by
        apply List.map_congr_left
        intro c hc
        have hne : c ≠ '\u212A' := fun heq => hkelvin (heq ▸ hc)
        rw [lowerLatin, if_neg hne]
      rw [hsame]
  · simp only [not_forall] at hlatin
    obtain ⟨c, hc, hforeign⟩ := hlatin
    obtain ⟨d, hd, hbeyond⟩ := exists_foreign_mem_lower hc hforeign
    obtain ⟨hself, hcode⟩ := lowerAscii_of_foreign hforeign
    have hmem : c ∈ t.map Binary64.lowerAscii := List.mem_map.2 ⟨c, hc, hself⟩
    refine iff_of_false ?_ ?_
    · intro heq
      exact Nat.not_lt.2 hbeyond (hascii d (heq ▸ hd))
    · intro heq
      exact Nat.not_lt.2 hcode (hascii c (heq ▸ hmem))

theorem CodeText.text?_eq_some {s : CodeText} {t : Text} : s.text? = some t ↔ s = ofText t := by
  induction s generalizing t with
  | nil => cases t <;> simp [text?, ofText]
  | cons c s ih =>
    rw [text?] at ih
    rw [text?, List.mapM_cons, ofText]
    cases c with
    | surrogate offset => cases t <;> simp [CodePoint.char?]
    | char c =>
      cases t with
      | nil => simp [CodePoint.char?, Option.bind_eq_some_iff]
      | cons d t => simp [CodePoint.char?, Option.bind_eq_some_iff, ih, ofText, and_left_comm]

namespace Severity

/-- The names that people write for a severity. -/
inductive IsName : Text → Severity → Prop where
  | error : IsName "error".toList .error
  | warning : IsName "warning".toList .warning
  | information : IsName "information".toList .info
  | info : IsName "info".toList .info
  | hint : IsName "hint".toList .hint

/-- A text spells a severity: it is a name of it between white space, in letters of any case. -/
def Spells (t : Text) (severity : Severity) : Prop :=
  ∃ lead word tail, t = lead ++ word ++ tail ∧ IsBlankText lead ∧ IsBlankText tail ∧
    IsName (word.map Binary64.lowerAscii) severity

/-- The severity that a text stands for, if there is one: what it spells, or else the fallback. -/
inductive IsChosen (fallback : Severity) (given : Option CodeText) : Severity → Prop where
  | named {t : Text} {severity : Severity} (text : given = some (CodeText.ofText t))
      (spells : Spells t severity) : IsChosen fallback given severity
  | unnamed (none : ∀ t severity, given = some (CodeText.ofText t) → ¬ Spells t severity) :
      IsChosen fallback given fallback

section
variable {t name : Text} {severity fallback : Severity} {given : Option CodeText}

theorem IsName.letters (h : IsName name severity) :
    (∀ c ∈ name, 'a' ≤ c ∧ c ≤ 'z') ∧ 'k' ∉ name := by
  have hall : name.all (fun c => decide ('a' ≤ c ∧ c ≤ 'z')) = true := by
    cases h <;> decide
  refine ⟨fun c hc => of_decide_eq_true (List.all_eq_true.1 hall c hc), ?_⟩
  cases h <;> decide

theorem lookup_spellings : spellings.lookup name = some severity ↔ IsName name severity := by
  constructor
  · intro h
    obtain ⟨front, back, hentries, -⟩ := List.lookup_eq_some_iff.1 h
    have hmem : (name, severity) ∈ spellings := by simp [hentries]
    simp only [spellings, List.mem_cons, Prod.mk.injEq, List.not_mem_nil, or_false] at hmem
    rcases hmem with ⟨rfl, rfl⟩ | ⟨rfl, rfl⟩ | ⟨rfl, rfl⟩ | ⟨rfl, rfl⟩ | ⟨rfl, rfl⟩
    · exact .error
    · exact .warning
    · exact .information
    · exact .info
    · exact .hint
  · intro h
    cases h <;> rfl

/-- A word whose capitals are made small is a name just if it is lower-cased to it, and then there is
    no white space in it. -/
theorem lower_isName {word : Text} :
    IsName (lower word) severity ↔ IsName (word.map Binary64.lowerAscii) severity := by
  have hsame : ∀ name, IsName name severity →
      (lower word = name ↔ word.map Binary64.lowerAscii = name) := by
    intro name h
    obtain ⟨hletters, hk⟩ := h.letters
    exact lower_eq_iff (fun c hc => ascii_of_le (hletters c hc).2 (by decide)) hk
  constructor
  · intro h
    rwa [(hsame _ h).1 rfl]
  · intro h
    rwa [(hsame _ h).2 rfl]

theorem isTrimmed_of_isName {word : Text} (h : IsName (word.map Binary64.lowerAscii) severity) :
    IsTrimmed word := by
  apply isTrimmed_of_not_blank
  intro c hc
  have hletter := h.letters.1 _ (List.mem_map_of_mem hc)
  by_contra hblank
  rw [Bool.not_eq_false] at hblank
  -- white space is left as it is, and is no letter
  have hspace : ¬ ('a' ≤ Binary64.lowerAscii c ∧ Binary64.lowerAscii c ≤ 'z') :=
    of_blank (p := fun c => ¬ ('a' ≤ Binary64.lowerAscii c ∧ Binary64.lowerAscii c ≤ 'z'))
      (by decide +kernel) hblank
  exact hspace hletter

theorem lookup_trim_lower : spellings.lookup t.trim.lower = some severity ↔ Spells t severity := by
  rw [lookup_spellings, lower_isName]
  constructor
  · intro h
    obtain ⟨lead, tail, ht, hlead, htail⟩ := exists_trim t
    exact ⟨lead, t.trim, tail, ht, hlead, htail, h⟩
  · intro h
    obtain ⟨lead, word, tail, rfl, hlead, htail, hname⟩ := h
    rwa [trim_append hlead htail (isTrimmed_of_isName hname)]

theorem Spells.unique {severity' : Severity} (h : Spells t severity) (h' : Spells t severity') :
    severity = severity' := by
  rw [← lookup_trim_lower] at h h'
  exact Option.some.inj (h.symm.trans h')

/-- Reading a severity gives the one that is chosen. -/
theorem ofText_eq_iff : ofText fallback given = severity ↔ IsChosen fallback given severity := by
  have hread : ∀ severity, (given.bind CodeText.text?).bind (fun t => spellings.lookup t.trim.lower) =
      some severity ↔ ∃ t, given = some (CodeText.ofText t) ∧ Spells t severity := by
    intro severity
    simp only [Option.bind_eq_some_iff, CodeText.text?_eq_some, lookup_trim_lower, exists_eq_right]
  rw [ofText]
  cases hfound : (given.bind CodeText.text?).bind (fun t => spellings.lookup t.trim.lower) with
  | some found =>
    obtain ⟨t, hgiven, hspells⟩ := (hread found).1 hfound
    rw [Option.getD_some]
    constructor
    · intro h
      rw [← h]
      exact .named hgiven hspells
    · intro h
      cases h with
      | named text spells =>
        rw [hgiven] at text
        rw [← CodeText.ofText_injective (Option.some.inj text)] at spells
        exact hspells.unique spells
      | unnamed none => exact absurd hspells (none t found hgiven)
  | none =>
    have hnone : ∀ t severity, given = some (CodeText.ofText t) → ¬ Spells t severity := by
      intro t severity hgiven hspells
      have hsome := (hread severity).2 ⟨t, hgiven, hspells⟩
      rw [hfound] at hsome
      cases hsome
    rw [Option.getD_none]
    constructor
    · intro h
      rw [← h]
      exact .unnamed hnone
    · intro h
      cases h with
      | named text spells => exact absurd spells (hnone _ _ text)
      | unnamed _ => rfl

end
end Severity
end ConfigLint
