import Mathlib.Data.List.MinMax
import ConfigLint.Proofs.Acceptance
import ConfigLint.Proofs.DigitRuns
import ConfigLint.Proofs.DurationGrammar
/-!
Durations are read in one way only. `scan?` cuts a text into parts from its front on, and takes the longest
run of digits, the longest unit and all white space there is.

What is proved:
  1. `longestUnit?_eq_find?`: the first unit of the list that a text starts with is the longest one.
  2. `readPart?_append` and `readPart?_eq_some`: what is scanned is a part, and a part is scanned as it is
     written, if a digit or nothing follows. In a duration this is what follows a part.
  3. `isReading_iff`: so a text has at most one reading, the one of the scan.
  4. `accepts_duration_iff`: an option for durations without a pattern accepts the texts that have one;
     these are the ones that a trial of the pattern of durations takes.
-/
namespace ConfigLint
open Text

namespace Duration

/-! ## Digits -/

section
variable {t run rest digits : Text} {p : Char → Bool} {c : Char}

theorem takeWhile_of_head (hrun : ∀ c ∈ run, p c = true) (hrest : ∀ c ∈ rest.head?, p c = false) :
    (run ++ rest).takeWhile p = run := by
  rw [List.takeWhile_append_of_pos hrun]
  cases rest with
  | nil => simp
  | cons c rest => simp [hrest c rfl]

theorem dropWhile_of_head (hrun : ∀ c ∈ run, p c = true) (hrest : ∀ c ∈ rest.head?, p c = false) :
    (run ++ rest).dropWhile p = rest := by
  rw [List.dropWhile_append_of_pos hrun]
  cases rest with
  | nil => rfl
  | cons c rest => simp [hrest c rfl]

theorem head_of_digits (h : IsDigits digits) (hc : c ∈ (digits ++ rest).head?) :
    isDecimalDigit c = true := by
  rw [List.head?_append_of_ne_nil _ h.1] at hc
  exact h.2 c (List.mem_of_mem_head? hc)

theorem isDigits_takeWhile (h : t.takeWhile isDecimalDigit ≠ []) :
    IsDigits (t.takeWhile isDecimalDigit) :=
  ⟨h, fun _ hc => List.mem_takeWhile_imp hc⟩

end

/-! ## Numbers -/

/-- The number at the front of a text, and what follows it: the longest run of digits and, behind a
    point, the longest one there. -/
def readNumber? (t : Text) : Option ((Text × Option Text) × Text) :=
  let whole := t.takeWhile isDecimalDigit
  if whole = [] then none
  else
    match t.dropWhile isDecimalDigit with
    | '.' :: rest =>
      let fraction := rest.takeWhile isDecimalDigit
      if fraction = [] then none
      else some ((whole, some fraction), rest.dropWhile isDecimalDigit)
    | rest => some ((whole, none), rest)

section
variable {t rest whole : Text} {fraction : Option Text}

theorem afterNumber?_eq (t : Text) : afterNumber? t = (readNumber? t).map Prod.snd := by
  rw [afterNumber?, readNumber?]
  simp only [spanDigits_fst_eq_nil, spanDigits_snd]
  split
  · rfl
  · generalize t.dropWhile isDecimalDigit = behind
    split
    · simp only []
      split <;> rfl
    · next hother =>
      split
      · next rest => exact absurd rfl (hother rest)
      · rfl

theorem readNumber?_eq_some (h : readNumber? t = some ((whole, fraction), rest)) :
    t = whole ++ (pointed fraction ++ rest) ∧ IsDigits whole ∧
      ∀ digits ∈ fraction, IsDigits digits := by
  have hsplit : t = t.takeWhile isDecimalDigit ++ t.dropWhile isDecimalDigit :=
    List.takeWhile_append_dropWhile.symm
  rw [readNumber?] at h
  simp only [] at h
  split at h
  · cases h
  · next hwhole =>
    split at h
    · next behind hpoint =>
      split at h
      · cases h
      · next hfraction =>
        cases h
        have hbehind : behind = behind.takeWhile isDecimalDigit ++ behind.dropWhile isDecimalDigit :=
          List.takeWhile_append_dropWhile.symm
        refine ⟨?_, isDigits_takeWhile hwhole, ?_⟩
        · rw [pointed, List.cons_append, ← hbehind, ← hpoint]
          exact hsplit
        · rintro _ ⟨⟩
          exact isDigits_takeWhile hfraction
    · cases h
      refine ⟨hsplit, isDigits_takeWhile hwhole, ?_⟩
      rintro _ ⟨⟩

/-- A number is scanned as it is written, if neither a digit nor a point follows. -/
theorem readNumber?_append (hwhole : IsDigits whole)
    (hfraction : ∀ digits ∈ fraction, IsDigits digits)
    (hrest : ∀ c ∈ rest.head?, isDecimalDigit c = false ∧ c ≠ '.') :
    readNumber? (whole ++ (pointed fraction ++ rest)) = some ((whole, fraction), rest) := by
  have hend : ∀ c ∈ rest.head?, isDecimalDigit c = false := fun c hc => (hrest c hc).1
  rw [readNumber?]
  cases fraction with
  | none =>
    rw [pointed, List.nil_append]
    simp only [takeWhile_of_head hwhole.2 hend, dropWhile_of_head hwhole.2 hend, if_neg hwhole.1]
    split
    · next behind => exact absurd rfl (hrest '.' rfl).2
    · rfl
  | some digits =>
    have hdigits : IsDigits digits := hfraction digits rfl
    have hpoint : ∀ c ∈ ('.' :: (digits ++ rest)).head?, isDecimalDigit c = false := by
      intro c hc
      rw [List.head?_cons, Option.mem_some_iff] at hc
      rw [← hc]
      rfl
    rw [pointed, List.cons_append]
    simp only [takeWhile_of_head hwhole.2 hpoint, dropWhile_of_head hwhole.2 hpoint,
      if_neg hwhole.1, takeWhile_of_head hdigits.2 hend, dropWhile_of_head hdigits.2 hend,
      if_neg hdigits.1]

end

/-! ## Units -/

def longestUnit? (t : Text) : Option Text := (units.filter (·.isPrefixOf t)).argmax List.length

section
variable {t rest u : Text}

theorem longestUnit?_eq_some : longestUnit? t = some u ↔
    u ∈ units ∧ u <+: t ∧ ∀ v ∈ units, v <+: t → v.length ≤ u.length := by
  rw [longestUnit?, List.argmax_eq_some_iff]
  simp only [List.mem_filter, List.isPrefixOf_iff_prefix, and_imp]
  constructor
  · rintro ⟨⟨hunit, hfront⟩, hlongest, -⟩
    exact ⟨hunit, hfront, hlongest⟩
  · rintro ⟨hunit, hfront, hlongest⟩
    refine ⟨⟨hunit, hfront⟩, hlongest, ?_⟩
    intro v hv hvt hlength
    have hsame : u = v :=
      (List.prefix_of_prefix_length_le hfront hvt hlength).eq_of_length
        (Nat.le_antisymm hlength (hlongest v hv hvt))
    rw [hsame]

/-- Of two units that start alike the longer one comes first in the list. -/
theorem pairwise_units : units.Pairwise fun u v => ¬ u <+: v := by
  decide

/-- The first unit of the list that a text starts with is the longest. -/
theorem longestUnit?_eq_find? (t : Text) : longestUnit? t = units.find? (·.isPrefixOf t) := by
  cases hfind : units.find? (·.isPrefixOf t) with
  | none =>
    have hnone : units.filter (·.isPrefixOf t) = [] := by
      rw [List.filter_eq_nil_iff]
      exact List.find?_eq_none.1 hfind
    rw [longestUnit?, hnone]
    rfl
  | some u =>
    obtain ⟨hfront, before, behind, hunits, hbefore⟩ := List.find?_eq_some_iff_append.1 hfind
    rw [List.isPrefixOf_iff_prefix] at hfront
    rw [longestUnit?_eq_some]
    refine ⟨hunits ▸ List.mem_append_right _ List.mem_cons_self, hfront, ?_⟩
    intro v hv hvt
    rw [hunits, List.mem_append, List.mem_cons] at hv
    rcases hv with hv | rfl | hv
    · have hother := hbefore v hv
      rw [List.isPrefixOf_iff_prefix.2 hvt] at hother
      cases hother
    · exact le_rfl
    · have hpair := pairwise_units
      rw [hunits, List.pairwise_append, List.pairwise_cons] at hpair
      rcases List.prefix_or_prefix_of_prefix hfront hvt with huv | hvu
      · exact absurd huv (hpair.2.1.1 v hv)
      · exact hvu.length_le

theorem findSome?_ite {α β : Type} (p : α → Bool) (f : α → β) (l : List α) :
    (l.findSome? fun a => if p a then some (f a) else none) = (l.find? p).map f := by
  induction l with
  | nil => rfl
  | cons a l ih =>
    rw [List.findSome?_cons, List.find?_cons, ih]
    cases p a <;> rfl

theorem afterUnit?_eq (t : Text) :
    afterUnit? t = (longestUnit? t).map fun u => t.drop u.length := by
  rw [afterUnit?, longestUnit?_eq_find?, findSome?_ite]

theorem letters_of_unit : ∀ u ∈ units, u ≠ [] ∧
    ∀ c ∈ u, isDecimalDigit c = false ∧ c ≠ '.' ∧ isBlank c = false := by
  have hall : ∀ u ∈ units, u ≠ [] ∧
      u.all (fun c => !isDecimalDigit c && c != '.' && !isBlank c) = true := by
    decide +kernel
  intro u hu
  obtain ⟨hne, hletters⟩ := hall u hu
  refine ⟨hne, ?_⟩
  intro c hc
  simpa [and_assoc] using List.all_eq_true.1 hletters c hc

theorem longestUnit?_append (hu : u ∈ units) (hrest : ∀ c ∈ rest.head?, ∀ v ∈ units, c ∉ v) :
    longestUnit? (u ++ rest) = some u := by
  rw [longestUnit?_eq_some]
  refine ⟨hu, List.prefix_append u rest, ?_⟩
  intro v hv hfront
  by_contra hlonger
  rw [Nat.not_le] at hlonger
  -- a longer unit would go on with the first character of what follows
  obtain ⟨more, rfl⟩ := List.prefix_of_prefix_length_le (List.prefix_append u rest) hfront hlonger.le
  rw [List.prefix_append_right_inj] at hfront
  cases more with
  | nil => simp at hlonger
  | cons c more =>
    obtain ⟨behind, rfl⟩ := hfront
    exact hrest c rfl _ hv (List.mem_append_right _ List.mem_cons_self)

end

/-! ## Parts -/

/-- The part at the front of a text, and what follows it. -/
def readPart? (t : Text) : Option (Part × Text) :=
  (readNumber? t).bind fun number =>
    (longestUnit? number.2).map fun unit =>
      let behind := number.2.drop unit.length
      (⟨number.1.1, number.1.2, unit, behind.takeWhile isBlank⟩, trimStart behind)

section
variable {t rest : Text} {p : Part} {parts : List Part}

theorem afterPart?_eq (t : Text) : afterPart? t = (readPart? t).map Prod.snd := by
  rw [afterPart?, readPart?, afterNumber?_eq]
  cases readNumber? t with
  | none => rfl
  | some number =>
    simp only [Option.map_some, Option.bind_some, afterUnit?_eq, Option.map_map]
    rfl

theorem readPart?_eq_some (h : readPart? t = some (p, rest)) : t = p.text ++ rest ∧ p.IsWritten := by
  rw [readPart?, Option.bind_eq_some_iff] at h
  obtain ⟨⟨⟨whole, fraction⟩, behind⟩, hnumber, h⟩ := h
  obtain ⟨unit, hunit, h⟩ := Option.map_eq_some_iff.1 h
  obtain ⟨htext, hwhole, hfraction⟩ := readNumber?_eq_some hnumber
  obtain ⟨hmem, ⟨after, hafter⟩, -⟩ := longestUnit?_eq_some.1 hunit
  simp only at hafter
  subst hafter
  simp only [List.drop_left', Prod.mk.injEq] at h
  obtain ⟨rfl, rfl⟩ := h
  refine ⟨?_, hwhole, hfraction, hmem, fun c hc => List.mem_takeWhile_imp hc⟩
  have hgap : after.takeWhile isBlank ++ trimStart after = after := List.takeWhile_append_dropWhile
  rw [htext, Part.text]
  simp only [List.append_assoc, hgap]

theorem Part.IsWritten.text_ne_nil (h : p.IsWritten) : p.text ≠ [] :=
  List.append_ne_nil_of_left_ne_nil h.whole.1 _

theorem readPart?_append (h : p.IsWritten) (hrest : ∀ c ∈ rest.head?, isDecimalDigit c = true) :
    readPart? (p.text ++ rest) = some (p, rest) := by
  obtain ⟨hne, hletters⟩ := letters_of_unit p.unit h.unit
  have hunit : ∀ c ∈ (p.unit ++ (p.gap ++ rest)).head?, isDecimalDigit c = false ∧ c ≠ '.' := by
    intro c hc
    rw [List.head?_append_of_ne_nil _ hne] at hc
    have hletter := hletters c (List.mem_of_mem_head? hc)
    exact ⟨hletter.1, hletter.2.1⟩
  -- what follows is a digit, so the white space ends before it
  have hvisible : ∀ c ∈ rest.head?, isBlank c = false := by
    intro c hc
    cases hblank : isBlank c with
    | false => rfl
    | true =>
      have hdigit := hrest c hc
      rw [isDecimalDigit, digitValue?_of_blank hblank] at hdigit
      cases hdigit
  have hbehind : ∀ c ∈ (p.gap ++ rest).head?, ∀ v ∈ units, c ∉ v := by
    intro c hc v hv hmem
    obtain ⟨hdigit, -, hblank⟩ := (letters_of_unit v hv).2 c hmem
    rw [List.head?_append] at hc
    rcases Option.or_eq_some_iff.1 hc with hgap | ⟨-, hnext⟩
    · rw [h.gap c (List.mem_of_mem_head? hgap)] at hblank
      cases hblank
    · rw [hrest c hnext] at hdigit
      cases hdigit
  have htext : p.text ++ rest =
      p.whole ++ (pointed p.fraction ++ (p.unit ++ (p.gap ++ rest))) := by
    simp only [Part.text, List.append_assoc]
  rw [htext, readPart?, readNumber?_append h.whole h.fraction hunit]
  simp only [Option.bind_some, longestUnit?_append h.unit hbehind, Option.map_some,
    List.drop_left', takeWhile_of_head h.gap hvisible, trimStart, dropWhile_of_head h.gap hvisible]

theorem length_lt_of_readPart? (h : readPart? t = some (p, rest)) : rest.length < t.length := by
  obtain ⟨rfl, hp⟩ := readPart?_eq_some h
  have hpos : 0 < p.text.length := List.length_pos_iff.2 hp.text_ne_nil
  rw [List.length_append]
  omega

/-! ## Readings -/

end

/-- The parts of a text from its front on; each one takes the longest run of digits, the longest unit and
    all white space there is. -/
def scan? (t : Text) : Option (List Part) :=
  match _h : readPart? t with
  | none => none
  | some (p, rest) => if rest = [] then some [p] else (scan? rest).map (p :: ·)
termination_by t.length
decreasing_by exact length_lt_of_readPart? _h

section
variable {t rest : Text} {p : Part} {parts : List Part}

theorem scan?_of_none (h : readPart? t = none) : scan? t = none := by
  rw [scan?]
  split
  · rfl
  · next hread =>
    rw [h] at hread
    cases hread

theorem scan?_of_some (h : readPart? t = some (p, rest)) :
    scan? t = if rest = [] then some [p] else (scan? rest).map (p :: ·) := by
  rw [scan?]
  split
  · next hread =>
    rw [h] at hread
    cases hread
  · next hread =>
    rw [h] at hread
    cases hread
    rfl

theorem IsReading.head (h : IsReading t parts) : ∀ c ∈ t.head?, isDecimalDigit c = true := by
  obtain ⟨rfl, hne, hwritten⟩ := h
  cases parts with
  | nil => exact absurd rfl hne
  | cons p parts =>
    intro c hc
    rw [List.flatMap_cons, Part.text, List.append_assoc] at hc
    exact head_of_digits (hwritten p List.mem_cons_self).whole hc

theorem IsReading.ne_nil (h : IsReading t parts) : t ≠ [] := by
  obtain ⟨rfl, hne, hwritten⟩ := h
  cases parts with
  | nil => exact absurd rfl hne
  | cons p parts =>
    rw [List.flatMap_cons]
    exact List.append_ne_nil_of_left_ne_nil (hwritten p List.mem_cons_self).text_ne_nil _

/-- Every reading is the one of the scan. -/
theorem IsReading.scan?_eq (h : IsReading t parts) : scan? t = some parts := by
  induction parts generalizing t with
  | nil => exact absurd rfl h.ne
  | cons p parts ih =>
    obtain ⟨hp, hparts⟩ := List.forall_mem_cons.1 h.written
    have htext : t = p.text ++ parts.flatMap Part.text := h.text
    cases parts with
    | nil =>
      have hread : readPart? t = some (p, []) := by
        rw [htext]
        exact readPart?_append hp (fun c hc => by cases hc)
      rw [scan?_of_some hread, if_pos rfl]
    | cons q parts =>
      have hrest : IsReading ((q :: parts).flatMap Part.text) (q :: parts) :=
        ⟨rfl, List.cons_ne_nil q parts, hparts⟩
      have hread : readPart? t = some (p, (q :: parts).flatMap Part.text) := by
        rw [htext]
        exact readPart?_append hp hrest.head
      rw [scan?_of_some hread, if_neg hrest.ne_nil, ih hrest]
      rfl

theorem isReading_of_scan? (h : scan? t = some parts) : IsReading t parts := by
  induction parts generalizing t with
  | nil =>
    cases hread : readPart? t with
    | none =>
      rw [scan?_of_none hread] at h
      cases h
    | some found =>
      rw [scan?_of_some hread] at h
      split at h
      · cases h
      · simp at h
  | cons p parts ih =>
    cases hread : readPart? t with
    | none =>
      rw [scan?_of_none hread] at h
      cases h
    | some found =>
      obtain ⟨q, rest⟩ := found
      obtain ⟨htext, hq⟩ := readPart?_eq_some hread
      rw [scan?_of_some hread] at h
      split at h
      · next hend =>
        cases h
        refine ⟨?_, List.cons_ne_nil _ _, List.forall_mem_singleton.2 hq⟩
        rw [htext, hend, List.flatMap_singleton, List.append_nil]
      · obtain ⟨parts', hscan, hcons⟩ := Option.map_eq_some_iff.1 h
        cases hcons
        obtain ⟨hrest, -, hwritten⟩ := ih hscan
        refine ⟨?_, List.cons_ne_nil _ _, List.forall_mem_cons.2 ⟨hq, hwritten⟩⟩
        rw [htext, hrest, List.flatMap_cons]

/-- A text has one reading if it is scanned, and none otherwise. -/
theorem isReading_iff : IsReading t parts ↔ scan? t = some parts :=
  ⟨IsReading.scan?_eq, isReading_of_scan?⟩

theorem partsWithin_iff {n : Nat} (h : t.length ≤ n) :
    partsWithin n t = true ↔ ∃ parts, scan? t = some parts := by
  induction n generalizing t with
  | zero =>
    have ht : t = [] := List.length_eq_zero_iff.1 (Nat.le_zero.1 h)
    subst ht
    have hnone : scan? [] = none := scan?_of_none rfl
    simp [partsWithin, hnone]
  | succ n ih =>
    rw [partsWithin, afterPart?_eq]
    cases hread : readPart? t with
    | none => simp [scan?_of_none hread]
    | some found =>
      obtain ⟨p, rest⟩ := found
      have hshorter := length_lt_of_readPart? hread
      have hrest := ih (t := rest) (by omega)
      simp only [Option.map_some, Bool.or_eq_true, List.isEmpty_iff, hrest, scan?_of_some hread]
      by_cases hend : rest = []
      · simp [hend]
      · simp [hend, Option.map_eq_some_iff]

theorem accepts_iff : accepts t = true ↔ ∃ parts, IsReading t parts := by
  rw [accepts, partsWithin_iff le_rfl]
  exact exists_congr fun parts => isReading_iff.symm

end
end Duration

namespace Schema

/-- An option for durations that has no pattern accepts the values that can be read as parts one after
    the other. There is one way to read such a value, and the scan finds it. A trial of the pattern of
    durations, which goes back where it has to, takes the same values. -/
theorem accepts_duration_iff [Interpreter] (s : Schema) (o : OptionDecl) (value : Text)
    (kind : o.type = ValueKind.duration.name) (plain : o.HasNoPattern) :
    (s.Accepts o value ↔ ∃ parts, Duration.IsReading value.trim parts) ∧
    (s.Accepts o value → ∃! parts, Duration.IsReading value.trim parts) ∧
    (∀ parts, Duration.IsReading value.trim parts ↔ Duration.scan? value.trim = some parts) ∧
    (s.Accepts o value ↔ PatternTakes Duration.pattern value.trim) := by
  have haccepts : s.Accepts o value ↔ ∃ parts, Duration.IsReading value.trim parts := by
    rw [Accepts, checkOption_of_no_pattern plain, ← Duration.accepts_iff]
    simp only [OptionDecl.checkType, kind, ValueKind.ofName?_name, Except.ok.injEq,
      rejectUnless_eq_none]
  refine ⟨haccepts, ?_, fun _ => Duration.isReading_iff, ?_⟩
  · intro h
    obtain ⟨parts, hparts⟩ := haccepts.1 h
    refine ⟨parts, hparts, ?_⟩
    intro parts' hparts'
    exact Option.some.inj (hparts'.scan?_eq.symm.trans hparts.scan?_eq)
  · rw [haccepts, Duration.patternTakes_pattern_iff]

def oneDuration : OptionDecl := { type := "duration".toList }

/-- Digits of two scripts, a fraction, units that start alike, and white space between the parts. -/
theorem accepts_duration_iff_units :
    let value : Text := " 1m\u0663ms\u3000 0.5\u0660s2m\n".toList
    let parts : List Duration.Part :=
      [⟨['1'], none, ['m'], []⟩, ⟨['\u0663'], none, ['m', 's'], ['\u3000', ' ']⟩,
        ⟨['0'], some ['5', '\u0660'], ['s'], []⟩, ⟨['2'], none, ['m'], []⟩]
    oneDuration.type = ValueKind.duration.name ∧ oneDuration.HasNoPattern ∧
      Duration.IsReading value.trim parts ∧ fallback.Accepts oneDuration value ∧
      (∃! parts, Duration.IsReading value.trim parts) ∧
      Duration.scan? value.trim = some parts ∧ PatternTakes Duration.pattern value.trim := by
  intro value parts
  have hplain : oneDuration.HasNoPattern := .inl rfl
  obtain ⟨haccepts, hunique, hscan, hpattern⟩ :=
    accepts_duration_iff fallback oneDuration value rfl hplain
  have hreading : Duration.IsReading value.trim parts :=
    ⟨by decide +kernel, List.cons_ne_nil _ _, by decide +kernel⟩
  have haccepted : fallback.Accepts oneDuration value := haccepts.2 ⟨parts, hreading⟩
  exact ⟨rfl, hplain, hreading, haccepted, hunique haccepted, (hscan parts).1 hreading,
    hpattern.1 haccepted⟩

end Schema
end ConfigLint
