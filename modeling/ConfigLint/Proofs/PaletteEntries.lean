import ConfigLint.Proofs.Acceptance
import ConfigLint.Proofs.Colors
import ConfigLint.Proofs.DigitRuns
/-!
The grammar of palette entries: a number of at most 255 in decimal digits of any script, an equals sign
that may stand between white space, and a colour.

What is proved:
  1. `ofText?_of_parts` and `exists_parts`: a text is split into its number and its colour wherever it
     has these parts, and nowhere else.
  2. `IsEntry.of_checkPalette` and `IsEntry.checkPalette`: what the check of an entry accepts is in the
     grammar, and it accepts all of it unless a number has too many digits to be read.
  3. `accepts_palette_iff`: so an option for palette entries without a pattern accepts exactly these.
-/
namespace ConfigLint
open Text

namespace PaletteEntry

inductive IsEntry (t : Text) : Prop where
  | intro {run gap front color : Text} {digits : List Nat}
      (text : t = run ++ gap ++ '=' :: (front ++ color)) (isRun : IsRun run digits) (ne : run ≠ [])
      (small : numberOf digits ≤ 255) (gapBlank : IsBlankText gap) (frontBlank : IsBlankText front)
      (isColor : Color.IsHex color ∨ Color.isName color = true) : IsEntry t

section
variable {t run gap front color : Text} {digits : List Nat} {e : PaletteEntry}

theorem noDigitAhead_gap (hgap : IsBlankText gap) (rest : Text) :
    NoDigitAhead (gap ++ '=' :: rest) := by
  cases gap with
  | nil => exact noDigitAhead_cons rfl rest
  | cons c gap => exact noDigitAhead_cons (digitValue?_of_blank (hgap c List.mem_cons_self)) _

theorem trimStart_equals (hgap : IsBlankText gap) (rest : Text) :
    trimStart (gap ++ '=' :: rest) = '=' :: rest := by
  rw [hgap.trimStart_append]
  exact trimStart_of_head fun c hc => by
    rw [List.head?_cons, Option.mem_some_iff] at hc
    rw [← hc]
    rfl

theorem ofText?_of_parts (hrun : IsRun run digits) (hne : run ≠ []) (hgap : IsBlankText gap)
    (hfront : IsBlankText front) (hline : '\n' ∉ color.trimStart) :
    ofText? (run ++ gap ++ '=' :: (front ++ color)) = some ⟨digits, color.trim⟩ := by
  have hspan : spanDigits (run ++ (gap ++ '=' :: (front ++ color))) =
      (digits, gap ++ '=' :: (front ++ color)) := spanDigits_append hrun (noDigitAhead_gap hgap _)
  have hcolor : trim color.trimStart = color.trim := by
    rw [trim, trim, trimStart_of_head head?_trimStart]
  rw [List.append_assoc, ofText?, hspan]
  simp only []
  rw [if_neg (hrun.ne_nil_iff.1 hne), trimStart_equals hgap]
  simp only []
  rw [hfront.trimStart_append, hcolor, if_neg]
  rw [List.contains_iff_mem]
  exact hline

theorem exists_parts (h : ofText? t = some e) : ∃ run gap front color : Text,
    t = run ++ gap ++ '=' :: (front ++ color) ∧ IsRun run e.digits ∧ run ≠ [] ∧
      IsBlankText gap ∧ IsBlankText front ∧ (∀ c ∈ color.head?, isBlank c = false) ∧
      e.color = color.trim := by
  obtain ⟨run, htext, hrun, -⟩ := exists_run t
  rw [ofText?] at h
  simp only [] at h
  split at h
  · cases h
  · next hne =>
    split at h
    · next rest hequals =>
      split at h
      · cases h
      · obtain ⟨gap, hgap, hgapBlank⟩ := exists_trimStart (spanDigits t).2
        obtain ⟨front, hfront, hfrontBlank⟩ := exists_trimStart rest
        cases h
        refine ⟨run, gap, front, trimStart rest, ?_, hrun, hrun.ne_nil_iff.2 hne, hgapBlank,
          hfrontBlank, head?_trimStart, rfl⟩
        rw [← hfront, List.append_assoc, ← hequals, ← hgap]
        exact htext
    · cases h

theorem checkPalette_eq_none : checkPalette t = .ok none ↔ ∃ e, ofText? t = some e ∧
    e.digits.length ≤ maxDigits ∧ numberOf e.digits ≤ 255 ∧ Color.accepts e.color = true := by
  rw [checkPalette]
  cases ofText? t with
  | none => simp
  | some e =>
    have hnumber : digitsValue 0 e.digits = numberOf e.digits := by
      rw [digitsValue_eq, Nat.zero_mul, Nat.zero_add]
    simp only [Option.some.injEq, exists_eq_left', index, hnumber]
    by_cases hlong : maxDigits < e.digits.length
    · simp [hlong]
    · have hlength : e.digits.length ≤ maxDigits := Nat.not_lt.1 hlong
      by_cases hsmall : numberOf e.digits ≤ 255
      · have hsize : ¬ paletteSize ≤ numberOf e.digits := Nat.not_le.2 (Nat.lt_succ_of_le hsmall)
        simp [hlong, hlength, hsmall, hsize, rejectUnless_eq_none]
      · have hsize : paletteSize ≤ numberOf e.digits := Nat.lt_of_not_le hsmall
        simp [hlong, hsmall, hsize]

theorem IsEntry.of_checkPalette (trimmed : IsTrimmed t) (h : checkPalette t = .ok none) :
    IsEntry t := by
  obtain ⟨e, hsplit, -, hsmall, haccepts⟩ := checkPalette_eq_none.1 h
  obtain ⟨run, gap, front, color, htext, hrun, hne, hgap, hfront, hhead, hcolor⟩ :=
    exists_parts hsplit
  -- the colour ends the text, so there is nothing to trim
  have hsuffix : color <:+ t := by
    refine ⟨run ++ gap ++ '=' :: front, ?_⟩
    rw [htext, List.append_assoc _ _ color, List.cons_append]
  rw [hcolor, (trimmed.of_suffix hsuffix hhead).trim_eq] at haccepts
  exact .intro htext hrun hne hsmall hgap hfront (Color.accepts_iff.1 haccepts)

theorem IsEntry.checkPalette (trimmed : IsTrimmed t)
    (short : (t.takeWhile isDecimalDigit).length ≤ maxDigits) (h : IsEntry t) :
    checkPalette t = .ok none := by
  obtain ⟨htext, hrun, hne, hsmall, hgap, hfront, hcolor⟩ := h
  next run gap front color digits =>
  -- without the white space in front of it, the colour is still one
  have haccepts : Color.accepts color.trimStart = true :=
    Color.accepts_trimStart (Color.accepts_iff.2 hcolor)
  have hsuffix : color.trimStart <:+ t := by
    obtain ⟨lead, hlead, -⟩ := exists_trimStart color
    refine ⟨run ++ gap ++ '=' :: (front ++ lead), ?_⟩
    rw [htext, List.append_assoc _ _ color.trimStart, List.cons_append, List.append_assoc front,
      ← hlead]
  have htrim : color.trim = color.trimStart :=
    trimEnd_of_last (trimmed.of_suffix hsuffix head?_trimStart).last
  have hsplit : ofText? t = some ⟨digits, color.trim⟩ := by
    rw [htext]
    exact ofText?_of_parts hrun hne hgap hfront (Color.no_feed_of_accepts haccepts)
  have hlength : digits.length ≤ maxDigits := by
    have hspan : spanDigits t = (digits, gap ++ '=' :: (front ++ color)) := by
      rw [htext, List.append_assoc]
      exact spanDigits_append hrun (noDigitAhead_gap hgap _)
    rwa [← length_spanDigits, hspan] at short
  exact checkPalette_eq_none.2 ⟨_, hsplit, hlength, hsmall, htrim ▸ haccepts⟩

end
end PaletteEntry

namespace Schema

/-- An option for palette entries that has no pattern accepts the values that are palette entries once
    they are trimmed, and no others, as long as they do not start with more digits than are read. -/
theorem accepts_palette_iff [Interpreter] (s : Schema) (o : OptionDecl) (value : Text)
    (kind : o.type = ValueKind.palette.name) (plain : o.HasNoPattern)
    (short : (value.trim.takeWhile isDecimalDigit).length ≤ maxDigits) :
    s.Accepts o value ↔ PaletteEntry.IsEntry value.trim := by
  have htype : s.HasType o value ↔ checkPalette value.trim = .ok none := by
    simp only [HasType, OptionDecl.checkType, kind, ValueKind.ofName?_name]
  rw [accepts_of_no_pattern plain, htype]
  have htrimmed : IsTrimmed value.trim := isTrimmed_trim value
  exact ⟨.of_checkPalette htrimmed, fun h => h.checkPalette htrimmed short⟩

def paletteEntries : OptionDecl := { type := "palette".toList }

/-- An entry in digits of two scripts with a zero in front, and a name with spaces in it. -/
theorem accepts_palette_iff_name :
    let value : Text := "\u0660\u06625\u3000= Dark Slate Gray ".toList
    paletteEntries.type = ValueKind.palette.name ∧ paletteEntries.HasNoPattern ∧
      (value.trim.takeWhile isDecimalDigit).length ≤ maxDigits ∧
      fallback.Accepts paletteEntries value ∧ PaletteEntry.IsEntry value.trim := by
  intro value
  have hplain : paletteEntries.HasNoPattern := .inl rfl
  have hshort : (value.trim.takeWhile isDecimalDigit).length ≤ maxDigits := by decide +kernel
  have haccepted : fallback.Accepts paletteEntries value := by
    rw [Accepts]
    decide +kernel
  exact ⟨rfl, hplain, hshort, haccepted,
    (accepts_palette_iff fallback paletteEntries value rfl hplain hshort).1 haccepted⟩

end Schema
end ConfigLint
