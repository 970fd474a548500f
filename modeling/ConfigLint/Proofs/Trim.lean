import Mathlib.Data.List.DropRight
import ConfigLint.Text.Blank
/-!
Trimming. A text is white space, then what remains of it, then white space again; what remains
neither starts nor ends with white space, and that determines it (`trim_append`).
-/
namespace ConfigLint
namespace Text

/-- The code points of all white space. -/
def blankCodes : List Nat :=
  [0x09, 0x0A, 0x0B, 0x0C, 0x0D, 0x1C, 0x1D, 0x1E, 0x1F, 0x20, 0x85, 0xA0, 0x1680, 0x2000, 0x2001,
   0x2002, 0x2003, 0x2004, 0x2005, 0x2006, 0x2007, 0x2008, 0x2009, 0x200A, 0x2028, 0x2029, 0x202F,
   0x205F, 0x3000]

theorem mem_blankCodes {c : Char} (h : isBlank c = true) : c.toNat ∈ blankCodes := by
  simp only [isBlank, Bool.or_eq_true, Bool.and_eq_true, decide_eq_true_eq, beq_iff_eq] at h
  simp only [blankCodes, List.mem_cons, List.not_mem_nil, or_false]
  omega

theorem of_blank {p : Char → Prop} (h : ∀ n ∈ blankCodes, p (Char.ofNat n)) {c : Char}
    (hc : isBlank c = true) : p c := by
  have hp : p (Char.ofNat c.toNat) := h c.toNat (mem_blankCodes hc)
  rwa [Char.ofNat_toNat] at hp

/-- A text of white space only. -/
def IsBlankText (t : Text) : Prop := ∀ c ∈ t, isBlank c = true

/-- A text that neither starts nor ends with white space. -/
structure IsTrimmed (t : Text) : Prop where
  head : ∀ c ∈ t.head?, isBlank c = false
  last : ∀ c ∈ t.getLast?, isBlank c = false

theorem isBlankText_nil : IsBlankText [] := fun c hc => by cases hc

theorem length_pos_of_not_blank {t : Text} (h : ¬ IsBlankText t) : 0 < t.length := by
  rw [List.length_pos_iff]
  rintro rfl
  exact h isBlankText_nil

theorem trimEnd_eq_rdropWhile (t : Text) : t.trimEnd = List.rdropWhile isBlank t := rfl

theorem IsBlankText.trimStart_append {lead : Text} (h : IsBlankText lead) (t : Text) :
    trimStart (lead ++ t) = trimStart t := List.dropWhile_append_of_pos h

theorem trimStart_of_head {t : Text} (h : ∀ c ∈ t.head?, isBlank c = false) : trimStart t = t := by
  cases t with
  | nil => rfl
  | cons c t =>
    have hc : isBlank c = false := h c rfl
    simp [trimStart, hc]

theorem IsBlankText.trimEnd_append {tail : Text} (h : IsBlankText tail) (t : Text) :
    trimEnd (t ++ tail) = trimEnd t := by
  have hrev : ∀ c ∈ tail.reverse, isBlank c = true := fun c hc => h c (List.mem_reverse.1 hc)
  rw [trimEnd, trimEnd, dropEndWhile, List.reverse_append, List.dropWhile_append_of_pos hrev]
  rfl

theorem trimEnd_of_last {t : Text} (h : ∀ c ∈ t.getLast?, isBlank c = false) : trimEnd t = t := by
  rw [trimEnd_eq_rdropWhile, List.rdropWhile_eq_self_iff]
  intro hne
  simp [h _ (List.getLast?_eq_some_getLast hne)]

/-- White space around a trimmed text is what trimming takes away. -/
theorem trim_append {lead key tail : Text} (hlead : IsBlankText lead) (htail : IsBlankText tail)
    (hkey : IsTrimmed key) : trim (lead ++ key ++ tail) = key := by
  rw [trim, List.append_assoc, hlead.trimStart_append]
  cases key with
  | nil =>
    have hnil : trimStart tail = [] := List.dropWhile_eq_nil_iff.2 htail
    rw [List.nil_append, hnil]
    rfl
  | cons c key =>
    rw [trimStart_of_head (by simpa using hkey.head), htail.trimEnd_append,
      trimEnd_of_last hkey.last]

theorem exists_trimStart (t : Text) : ∃ lead, t = lead ++ trimStart t ∧ IsBlankText lead :=
  ⟨t.takeWhile isBlank, List.takeWhile_append_dropWhile.symm, fun _ hc => List.mem_takeWhile_imp hc⟩

theorem exists_trimEnd (t : Text) : ∃ tail, t = trimEnd t ++ tail ∧ IsBlankText tail :=
  ⟨t.rtakeWhile isBlank, (List.rdropWhile_append_rtakeWhile ..).symm,
    fun _ hc => List.mem_rtakeWhile_imp hc⟩

theorem exists_trim (t : Text) :
    ∃ lead tail, t = lead ++ trim t ++ tail ∧ IsBlankText lead ∧ IsBlankText tail := by
  obtain ⟨lead, hstart, hlead⟩ := exists_trimStart t
  obtain ⟨tail, hend, htail⟩ := exists_trimEnd (trimStart t)
  refine ⟨lead, tail, ?_, hlead, htail⟩
  rw [List.append_assoc, trim, ← hend]
  exact hstart

theorem head?_trimStart {t : Text} : ∀ c ∈ (trimStart t).head?, isBlank c = false := by
  intro c hc
  have h := List.head?_dropWhile_not isBlank t
  rw [Option.mem_def, trimStart] at hc
  rw [hc] at h
  exact h

theorem getLast?_trimEnd {t : Text} : ∀ c ∈ (trimEnd t).getLast?, isBlank c = false := by
  intro c hc
  rw [trimEnd, dropEndWhile, List.getLast?_reverse] at hc
  exact head?_trimStart c hc

theorem isTrimmed_trim (t : Text) : IsTrimmed (trim t) := by
  refine ⟨?_, getLast?_trimEnd⟩
  intro c hc
  obtain ⟨tail, hend, -⟩ := exists_trimEnd (trimStart t)
  apply head?_trimStart (t := t) c
  rw [Option.mem_def] at hc ⊢
  rw [hend, List.head?_append]
  rw [trim] at hc
  rw [hc]
  rfl

/-- A trimmed text stays as it is, and so it does between white space. -/
theorem trim_around_trim {lead tail : Text} (hlead : IsBlankText lead) (htail : IsBlankText tail)
    (t : Text) : trim (lead ++ trim t ++ tail) = trim t :=
  trim_append hlead htail (isTrimmed_trim t)

/-- The end of a trimmed text is trimmed if it starts without white space. -/
theorem IsTrimmed.of_suffix {s t : Text} (h : IsTrimmed t) (hsuffix : s <:+ t)
    (hhead : ∀ c ∈ s.head?, isBlank c = false) : IsTrimmed s := by
  refine ⟨hhead, ?_⟩
  intro c hc
  obtain ⟨front, rfl⟩ := hsuffix
  apply h.last c
  rw [Option.mem_def] at hc ⊢
  rw [List.getLast?_append, hc, Option.some_or]

theorem isTrimmed_of_not_blank {t : Text} (h : ∀ c ∈ t, isBlank c = false) : IsTrimmed t :=
  ⟨fun c hc => h c (List.mem_of_mem_head? hc), fun c hc => h c (List.mem_of_mem_getLast? hc)⟩

theorem IsTrimmed.trim_eq {t : Text} (h : IsTrimmed t) : trim t = t := by
  have htrim := trim_append isBlankText_nil isBlankText_nil h
  rwa [List.nil_append, List.append_nil] at htrim

theorem IsTrimmed.cons {c : Char} {t : Text} (hc : isBlank c = false) (h : IsTrimmed t) :
    IsTrimmed (c :: t) := by
  constructor
  · intro d hd
    rw [List.head?_cons, Option.mem_some_iff] at hd
    rwa [← hd]
  · intro d hd
    rw [List.getLast?_cons, Option.mem_some_iff] at hd
    cases hlast : t.getLast? with
    | none =>
      rw [hlast, Option.getD_none] at hd
      rwa [← hd]
    | some e =>
      rw [hlast, Option.getD_some] at hd
      exact hd ▸ h.last e hlast

theorem trim_cons {c : Char} {t : Text} (hc : isBlank c = false)
    (hhead : ∀ d ∈ t.head?, isBlank d = false) : trim (c :: t) = c :: trim t := by
  have hstart : trim t = trimEnd t := by rw [trim, trimStart_of_head hhead]
  obtain ⟨tail, ht, htail⟩ := exists_trimEnd t
  have htrim := trim_append isBlankText_nil htail ((isTrimmed_trim t).cons hc)
  rw [List.nil_append, List.cons_append, hstart, ← ht] at htrim
  rw [htrim, hstart]

theorem trim_trim (t : Text) : trim (trim t) = trim t := (isTrimmed_trim t).trim_eq

theorem isTrimmed_nil : IsTrimmed [] := by constructor <;> simp

theorem trim_eq_nil {t : Text} : trim t = [] ↔ IsBlankText t := by
  constructor
  · intro h
    obtain ⟨lead, tail, ht, hlead, htail⟩ := exists_trim t
    rw [h, List.append_nil] at ht
    intro c hc
    rw [ht, List.mem_append] at hc
    exact hc.elim (hlead c) (htail c)
  · intro h
    have htrim := trim_append h isBlankText_nil isTrimmed_nil
    rwa [List.append_nil, List.append_nil] at htrim

end Text
end ConfigLint
