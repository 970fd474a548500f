import ConfigLint.Proofs.LineEnds
import ConfigLint.Proofs.Renumbering
import ConfigLint.Proofs.Spans
/-!
White space in a line. Around the key, the separator and the value of a line there may be any white
space, or none: a check finds the same, at other offsets. One thing has to be minded. A key that ends
with an odd number of backslashes would escape a separator right behind it, so it keeps a gap.

What is proved:
  1. `isFirstSeparator_append_cons` and `isAssignment_iff`: which white space may stand in a line. The
     escapes of a key are its own, whatever stands in front.
  2. `Padding.Fits.assigns`: a line under other white space sets the same key, to a value that is the
     same once it is trimmed.
  3. `checkDocument_respace`: a document with such a line has the same diagnostics, and only those at
     the line may have other offsets.
-/
namespace ConfigLint
open Text

/-! ## Separators and white space -/

theorem IsSeparator.lt_length {t : Text} {i : Nat} (h : IsSeparator t i) : i < t.length :=
  (List.getElem?_eq_some_iff.1 h.1).1

theorem isSeparator_append_left {a b : Text} {i : Nat} (h : i < a.length) :
    IsSeparator (a ++ b) i ↔ IsSeparator a i := by
  rw [IsSeparator, List.getElem?_append_left h, List.take_append_of_le_length h.le]
  rfl

/-- A text that ends without a backslash takes no part in the escapes of what follows. -/
theorem endEscapes_append_of_zero {a : Text} (h : endEscapes a = 0) (b : Text) :
    endEscapes (a ++ b) = endEscapes b := by
  rw [endEscapes, List.length_eq_zero_iff] at h
  rw [endEscapes, endEscapes, List.reverse_append, List.takeWhile_append, h, List.append_nil]
  split
  · next hall => exact hall.symm
  · rfl

theorem isSeparator_append_right {a : Text} (h : endEscapes a = 0) (b : Text) (i : Nat) :
    IsSeparator (a ++ b) (a.length + i) ↔ IsSeparator b i := by
  rw [IsSeparator, List.getElem?_append_right (Nat.le_add_right _ _), List.take_length_add_append,
    endEscapes_append_of_zero h, Nat.add_sub_cancel_left]
  rfl

theorem endEscapes_append_blank {gap : Text} (hgap : IsBlankText gap) (hne : gap ≠ []) (t : Text) :
    endEscapes (t ++ gap) = 0 := by
  have hlast : isBlank (gap.getLast hne) = true := hgap _ (List.getLast_mem hne)
  have hescape : gap.getLast hne ≠ '\\' := by
    intro h
    rw [h] at hlast
    exact absurd hlast (by decide)
  rw [← List.dropLast_append_getLast hne, ← List.append_assoc]
  exact endEscapes_concat_of_ne _ hescape

theorem Text.IsBlankText.endEscapes_eq_zero {t : Text} (h : IsBlankText t) : endEscapes t = 0 := by
  by_cases hne : t = []
  · rw [hne]
    rfl
  · exact endEscapes_append_blank h hne []

theorem Text.IsBlankText.not_isSeparator {t : Text} (h : IsBlankText t) (i : Nat) : ¬ IsSeparator t i := by
  rintro ⟨hequals, -⟩
  have hblank : isBlank '=' = true := h _ (List.mem_of_getElem? hequals)
  exact absurd hblank (by decide)

/-- White space around a text brings no separator into it, and takes none away. -/
theorem noSeparator_around {lead gap : Text} (hlead : IsBlankText lead) (hgap : IsBlankText gap)
    (key : Text) :
    (∀ i, ¬ IsSeparator (lead ++ key ++ gap) i) ↔ ∀ i, ¬ IsSeparator key i := by
  have hfront : ∀ i, IsSeparator (lead ++ key) (lead.length + i) ↔ IsSeparator key i :=
    isSeparator_append_right hlead.endEscapes_eq_zero key
  constructor
  · intro hnone i hi
    have hi' := (hfront i).2 hi
    exact hnone _ ((isSeparator_append_left hi'.lt_length).2 hi')
  · intro hnone i hi
    -- the equals sign stands in the white space in front, in the text, or behind it
    rcases Nat.lt_or_ge i (lead ++ key).length with hlt | hge
    · rw [isSeparator_append_left hlt] at hi
      rcases Nat.lt_or_ge i lead.length with hlt' | hge'
      · exact hlead.not_isSeparator i ((isSeparator_append_left hlt').1 hi)
      · obtain ⟨j, rfl⟩ := Nat.exists_eq_add_of_le hge'
        exact hnone j ((hfront j).1 hi)
    · have hequals := hi.1
      rw [List.getElem?_append_right hge] at hequals
      have hblank : isBlank '=' = true := hgap _ (List.mem_of_getElem? hequals)
      exact absurd hblank (by decide)

/-- An equals sign is the first separator of a line if it is not escaped, and there is none before
    it. -/
theorem isFirstSeparator_append_cons (before rest : Text) :
    IsFirstSeparator (before ++ '=' :: rest) before.length ↔
      endEscapes before % 2 = 0 ∧ ∀ i, ¬ IsSeparator before i := by
  rw [IsFirstSeparator, isSeparator_append_cons, eq_self, true_and]
  refine and_congr_right fun _ => ?_
  constructor
  · intro hnone i hi
    exact hnone i hi.lt_length ((isSeparator_append_left hi.lt_length).2 hi)
  · intro hnone i hlt hi
    exact hnone i ((isSeparator_append_left hlt).1 hi)

theorem endEscapes_around {lead gap : Text} (hlead : IsBlankText lead) (hgap : IsBlankText gap)
    (key : Text) :
    endEscapes (lead ++ key ++ gap) = if gap = [] then endEscapes key else 0 := by
  by_cases hne : gap = []
  · rw [if_pos hne, hne, List.append_nil, endEscapes_append_of_zero hlead.endEscapes_eq_zero]
  · rw [if_neg hne, endEscapes_append_blank hgap hne]

/-- Which white space may stand around the key of a line. -/
theorem isAssignment_iff {lead key gap value : Text} :
    IsAssignment (lead ++ key ++ gap ++ '=' :: value) lead key gap value ↔
      IsBlankText lead ∧ IsBlankText gap ∧ key ≠ [] ∧ IsTrimmed key ∧
        (∀ i, ¬ IsSeparator key i) ∧ (endEscapes key % 2 = 1 → gap ≠ []) := by
  have hseparator : IsBlankText lead → IsBlankText gap →
      (IsFirstSeparator (lead ++ key ++ gap ++ '=' :: value) (lead ++ key ++ gap).length ↔
        (∀ i, ¬ IsSeparator key i) ∧ (endEscapes key % 2 = 1 → gap ≠ [])) := by
    intro hlead hgap
    rw [isFirstSeparator_append_cons, noSeparator_around hlead hgap, endEscapes_around hlead hgap,
      and_comm]
    refine and_congr_right fun _ => ?_
    by_cases hne : gap = []
    · simp only [hne, if_true, ne_eq, not_true_eq_false, imp_false]
      omega
    · simp [hne]
  constructor
  · intro h
    exact ⟨h.lead_blank, h.gap_blank, h.key_ne, h.key_trimmed,
      (hseparator h.lead_blank h.gap_blank).1 h.first⟩
  · rintro ⟨hlead, hgap, hne, htrimmed, hfree⟩
    exact ⟨rfl, hlead, hgap, hne, htrimmed, (hseparator hlead hgap).2 hfree⟩

/-! ## A line under other white space -/

/-- The white space of a line that sets a key: in front of the key, behind it, and on both sides of
    the value. -/
structure Padding where
  lead : Text
  gap : Text
  front : Text
  back : Text
deriving Repr, DecidableEq

namespace Padding

/-- The line that sets `key` to `value`, with this white space in the place of any other. -/
def line (p : Padding) (key value : Text) : Text :=
  p.lead ++ key ++ p.gap ++ '=' :: (p.front ++ value.trim ++ p.back)

/-- White space on one line that goes with the key: behind an odd number of backslashes there has to
    be a gap, and in front of a byte order mark something has to stand. -/
structure Fits (p : Padding) (key : Text) : Prop where
  blank : ∀ w ∈ [p.lead, p.gap, p.front, p.back], IsBlankText w ∧ OnOneLine w
  unescaped : endEscapes key % 2 = 1 → p.gap ≠ []
  unmarked : key.head? = some byteOrderMark → p.lead ≠ []

variable {p : Padding} {raw key value : Text}

theorem Fits.trim_value (h : p.Fits key) (value : Text) :
    trim (p.front ++ value.trim ++ p.back) = value.trim :=
  trim_around_trim (h.blank p.front (by simp)).1 (h.blank p.back (by simp)).1 value

theorem Fits.assigns (h : p.Fits key) (sets : Assigns raw key value) :
    Assigns (p.line key value) key (p.front ++ value.trim ++ p.back) := by
  obtain ⟨noComment, lead, gap, hassign⟩ := sets
  have hhead : key.head? ≠ some '#' := mt hassign.isComment_iff_head.2 noComment
  have hold := hassign
  rw [hassign.text, isAssignment_iff] at hold
  obtain ⟨-, -, hne, htrimmed, hfree, -⟩ := hold
  have hnew : IsAssignment (p.line key value) p.lead key p.gap (p.front ++ value.trim ++ p.back) :=
    isAssignment_iff.2 ⟨(h.blank p.lead (by simp)).1, (h.blank p.gap (by simp)).1, hne, htrimmed, hfree,
      h.unescaped⟩
  exact ⟨mt hnew.isComment_iff_head.1 hhead, p.lead, p.gap, hnew⟩

theorem Fits.onOneLine (h : p.Fits key) (sets : Assigns raw key value) (hraw : OnOneLine raw) :
    OnOneLine (p.line key value) := by
  obtain ⟨-, lead, gap, hassign⟩ := sets
  obtain ⟨front, back, hvalue, -, -⟩ := exists_trim value
  -- a character of the new line is white space, the separator, or a character of the old line
  have hchars : ∀ c ∈ p.line key value,
      (∃ w ∈ [p.lead, p.gap, p.front, p.back], c ∈ w) ∨ c = '=' ∨ c ∈ raw := by
    intro c hc
    rw [hassign.text]
    have hkept : c ∈ value.trim → c ∈ value := by
      intro hc
      rw [hvalue]
      simp [hc]
    simp only [line, List.mem_append, List.mem_cons] at hc ⊢
    grind
  constructor
  · intro hc
    rcases hchars _ hc with ⟨w, hw, hc⟩ | hc | hc
    · exact (h.blank w hw).2.noReturn hc
    · exact absurd hc (by decide)
    · exact hraw.noReturn hc
  · intro hc
    rcases hchars _ hc with ⟨w, hw, hc⟩ | hc | hc
    · exact (h.blank w hw).2.noFeed hc
    · exact absurd hc (by decide)
    · exact hraw.noFeed hc

theorem Fits.head?_ne_mark (h : p.Fits key) (sets : Assigns raw key value) :
    (p.line key value).head? ≠ some byteOrderMark := by
  obtain ⟨-, lead, gap, hassign⟩ := sets
  cases hlead : p.lead with
  | nil =>
    have hkey : key.head? ≠ some byteOrderMark := fun hmark => h.unmarked hmark hlead
    obtain ⟨c, rest, rfl⟩ := List.exists_cons_of_ne_nil hassign.key_ne
    simpa [line, hlead] using hkey
  | cons c rest =>
    have hblank : isBlank c = true := (h.blank p.lead (by simp)).1 c (by simp [hlead])
    simp only [line, hlead, List.cons_append, List.head?_cons, ne_eq, Option.some.injEq]
    rintro rfl
    exact absurd hblank (by decide)

end Padding

/-! ## Documents -/

/-- Line `n` may have become a line that is alike, and every other line stays. -/
structure Line.IsRespaced (n : Int) (l l' : Line) : Prop extends Line.Alike l l' where
  number : l'.number = l.number
  elsewhere : l.number ≠ n → l' = l

/-- `d'` says the same as `d` at the same line, and unless that is line `n`, at the same offsets. -/
structure IsRespaced (n : Int) (d d' : Diagnostic) : Prop where
  line : d'.line = d.line
  message : d'.message = d.message
  severity : d'.severity = d.severity
  code : d'.code = d.code
  elsewhere : d.line ≠ n → d'.start = d.start ∧ d'.stop = d.stop

theorem Line.IsRespaced.refl (n : Int) (l : Line) : l.IsRespaced n l :=
  ⟨⟨rfl, rfl, rfl⟩, rfl, fun _ => rfl⟩

theorem Line.IsRespaced.place {n : Int} {l l' : Line} (h : l.IsRespaced n l') (f : Finding × Severity) :
    ConfigLint.IsRespaced n (l.place f) (l'.place f) := by
  refine ⟨h.number, rfl, rfl, rfl, fun hne => ?_⟩
  rw [h.elsewhere hne]
  exact ⟨rfl, rfl⟩

/-- A line that is read from the new text is alike. -/
theorem Padding.Fits.isRespaced {p : Padding} {raw key value : Text} (h : p.Fits key)
    (sets : Assigns raw key value) (n : Int) :
    (Line.read raw n).IsRespaced n (Line.read (p.line key value) n) := by
  obtain ⟨lead, gap, hassign, hold⟩ := sets.read_eq n
  obtain ⟨lead', gap', -, hnew⟩ := (h.assigns sets).read_eq n
  refine ⟨⟨?_, ?_, ?_⟩, ?_, fun hne => absurd (Line.read_number raw n) hne⟩
  · rw [hold, hnew]
    rfl
  · rw [hold, hnew]
    rfl
  · rw [hold, hnew]
    exact h.trim_value value
  · rw [Line.read_number, Line.read_number]

theorem assigns_of_read {raw key value : Text} {number : Int}
    (hkind : (Line.read raw number).kind = .keyValue)
    (hkey : (Line.read raw number).key = some key)
    (hvalue : (Line.read raw number).value = some value) : Assigns raw key value := by
  rcases Line.read_cases raw number with ⟨-, hread⟩ | ⟨-, -, hread⟩ |
    ⟨noComment, lead, key', gap, value', hassign, hread⟩ | ⟨-, -, -, hread⟩ <;>
    rw [hread] at hkind hkey hvalue
  · cases hkind
  · cases hkind
  · cases hkey
    cases hvalue
    exact ⟨noComment, lead, gap, hassign⟩
  · cases hkind

namespace Schema

/-- White space around the key, the separator and the value of a line has no effect on what a check
    says. All diagnostics of the document stay, in their order and with their lines, messages,
    severities and codes. Only at the line itself may they have other offsets. -/
theorem checkDocument_respace [Interpreter] (s : Schema) (options : CheckOptions)
    (before behind : List Text) (raw key value : Text) (p : Padding)
    (hlines : ∀ line ∈ before ++ raw :: behind, OnOneLine line ∧ line.head? ≠ some byteOrderMark)
    (hkind : (Line.read raw before.length).kind = .keyValue)
    (hkey : (Line.read raw before.length).key = some key)
    (hvalue : (Line.read raw before.length).value = some value)
    (hfits : p.Fits key) :
    List.Forall₂ (IsRespaced before.length)
      (s.checkDocument options (join ['\n'] (before ++ raw :: behind))).diagnostics
      (s.checkDocument options
        (join ['\n'] (before ++ p.line key value :: behind))).diagnostics := by
  have sets : Assigns raw key value := assigns_of_read hkind hkey hvalue
  have hraw := hlines raw (by simp)
  have hlines' : ∀ line ∈ before ++ p.line key value :: behind,
      OnOneLine line ∧ line.head? ≠ some byteOrderMark := by
    intro line hline
    rw [List.mem_append, List.mem_cons] at hline
    rcases hline with hline | rfl | hline
    · exact hlines line (by simp [hline])
    · exact ⟨hfits.onOneLine sets hraw.1, hfits.head?_ne_mark sets⟩
    · exact hlines line (by simp [hline])
  cases enabled : options.enabled with
  | false =>
    rw [diagnostics_of_disabled enabled, diagnostics_of_disabled enabled]
    exact List.Forall₂.nil
  | true =>
    rw [diagnostics_of_enabled enabled, diagnostics_of_enabled enabled,
      readDocument_join (by simp) hlines, readDocument_join (by simp) hlines',
      readLinesFrom_append, readLinesFrom_append, readLinesFrom_cons, readLinesFrom_cons,
      Nat.zero_add]
    refine rel_diagnosticsOf (R := Line.IsRespaced before.length) s options
      (fun l l' h => h.toAlike) (fun l l' f h _ => h.place f) ?_ ?_
    · intro key first first' l l' hfirst h
      rw [hfirst.number]
      exact h.place _
    · have hsame : ∀ lines : List Line, List.Forall₂ (Line.IsRespaced before.length) lines lines :=
        fun lines => List.forall₂_same.2 fun l _ => .refl _ l
      exact List.rel_append (hsame _) (.cons (hfits.isRespaced sets _) (hsame _))

/-- A key that ends with a backslash and is set twice: the second line moves to other white space and
    keeps a gap. -/
theorem checkDocument_respace_escape :
    let before := ["a\\ = 1".toList]
    let raw := " a\\\t=2".toList
    let p : Padding := ⟨[], "\u3000".toList, "  ".toList, "\t".toList⟩
    (∀ line ∈ before ++ raw :: [], OnOneLine line ∧ line.head? ≠ some byteOrderMark) ∧
      (Line.read raw 1).kind = .keyValue ∧ (Line.read raw 1).key = some "a\\".toList ∧
      (Line.read raw 1).value = some "2".toList ∧ p.Fits "a\\".toList ∧
      List.Forall₂ (IsRespaced 1) (fallback.checkDocument {} "a\\ = 1\n a\\\t=2".toList).diagnostics
        (fallback.checkDocument {} "a\\ = 1\na\\\u3000=  2\t".toList).diagnostics := by
  intro before raw p
  have hlines : ∀ line ∈ before ++ raw :: [],
      OnOneLine line ∧ line.head? ≠ some byteOrderMark := by decide
  have hkind : (Line.read raw 1).kind = .keyValue := by decide +kernel
  have hkey : (Line.read raw 1).key = some "a\\".toList := by decide +kernel
  have hvalue : (Line.read raw 1).value = some "2".toList := by decide +kernel
  have hfits : p.Fits "a\\".toList := by
    refine ⟨?_, by decide, by decide⟩
    intro w hw
    simp only [p, List.mem_cons, List.not_mem_nil, or_false] at hw
    rcases hw with rfl | rfl | rfl | rfl <;> exact ⟨trim_eq_nil.1 (by decide), by decide⟩
  have hold : join ['\n'] (before ++ raw :: []) = "a\\ = 1\n a\\\t=2".toList := by decide
  have hnew : join ['\n'] (before ++ p.line "a\\".toList "2".toList :: []) =
      "a\\ = 1\na\\\u3000=  2\t".toList := by decide
  have hsame := checkDocument_respace fallback {} before [] raw _ _ p hlines hkind hkey hvalue hfits
  rw [hold, hnew] at hsame
  exact ⟨hlines, hkind, hkey, hvalue, hfits, hsame⟩

end Schema
end ConfigLint
