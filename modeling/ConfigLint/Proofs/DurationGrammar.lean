import ConfigLint.Proofs.PlainPatterns
import ConfigLint.Proofs.Trim
/-!
The grammar of durations: parts one after the other, each a number, a unit, and white space behind it. The
grammar says nothing of the way in which a text is cut into parts; a text may be read as a list of parts if
they are written like that.

`pattern` is the grammar as a pattern, which a trial goes through with backtracking.
`patternTakes_pattern_iff` says that the trial takes the texts that can be read.
-/
namespace ConfigLint
open Text

namespace Duration

/-- One part of a duration: the digits of its number before the point and, if there is a point, behind
    it, the unit, and the white space behind the unit. -/
structure Part where
  whole : Text
  fraction : Option Text
  unit : Text
  gap : Text
deriving DecidableEq

/-- Decimal digits of any script, at least one. -/
def IsDigits (t : Text) : Prop := t ≠ [] ∧ ∀ c ∈ t, isDecimalDigit c = true

instance (t : Text) : Decidable (IsDigits t) :=
  decidable_of_iff (t ≠ [] ∧ t.all isDecimalDigit = true) (and_congr_right' List.all_eq_true)

def pointed : Option Text → Text
  | none => []
  | some digits => '.' :: digits

namespace Part

def text (p : Part) : Text := p.whole ++ (pointed p.fraction ++ (p.unit ++ p.gap))

/-- A part is as the grammar wants it. -/
structure IsWritten (p : Part) : Prop where
  whole : IsDigits p.whole
  fraction : ∀ digits ∈ p.fraction, IsDigits digits
  unit : p.unit ∈ units
  gap : IsBlankText p.gap

instance (p : Part) : Decidable p.IsWritten :=
  decidable_of_iff (IsDigits p.whole ∧ (∀ digits ∈ p.fraction, IsDigits digits) ∧ p.unit ∈ units ∧
      p.gap.all isBlank = true)
    ⟨fun h => ⟨h.1, h.2.1, h.2.2.1, List.all_eq_true.1 h.2.2.2⟩,
      fun h => ⟨h.whole, h.fraction, h.unit, List.all_eq_true.2 h.gap⟩⟩

end Part

/-- A text is read as these parts, of which there is at least one. -/
structure IsReading (t : Text) (parts : List Part) : Prop where
  text : t = parts.flatMap Part.text
  ne : parts ≠ []
  written : ∀ p ∈ parts, p.IsWritten

/-! ## The pattern -/

open Pattern

def pattern : CodeText := CodeText.ofText "(?:\\d+(?:\\.\\d+)?(?:ns|us|ms|s|m|h|d)\\s*)+".toList

def digitsPattern : Pattern := .loop .greedy 1 none (ofList [letter (ofKind .digit)])

def fractionPattern : Pattern :=
  .loop .greedy 0 (some 1) (ofList [letter (exactly '.'), digitsPattern])

def unitPattern : Pattern := ofAlternatives (units.map fun u => ofList (u.map (letter <| exactly ·)))

def gapPattern : Pattern := .loop .greedy 0 none (ofList [letter (ofKind .space)])

def partPattern : Pattern := ofList [digitsPattern, fractionPattern, unitPattern, gapPattern]

theorem ofText_pattern :
    Pattern.ofText pattern = .ok ⟨ofList [.loop .greedy 1 none partPattern], 2⟩ := by
  decide +kernel

section
variable {t : Text}

theorem mem_digits : t ∈ digitsPattern.language ↔ IsDigits t := by
  rw [digitsPattern, language, language_ofList_singleton, language, mem_between_texts, IsDigits,
    ← List.length_pos_iff]
  simp only [takes_ofKind]
  exact and_congr_right' (and_iff_right fun k hk => by cases hk)

theorem mem_fraction : t ∈ fractionPattern.language ↔
    ∃ f : Option Text, (∀ digits ∈ f, IsDigits digits) ∧ t = pointed f := by
  rw [fractionPattern, language, mem_optional, language_ofList, List.map_cons, List.map_singleton,
    List.prod_cons, List.prod_singleton, Option.exists, Language.mem_mul]
  refine or_congr ?_ ?_
  · simp [pointed]
  · constructor
    · rintro ⟨v, hv, w, hw, rfl⟩
      rw [mem_texts_exactly.1 hv]
      refine ⟨w, ?_, rfl⟩
      rintro _ ⟨⟩
      exact mem_digits.1 hw
    · rintro ⟨w, hw, rfl⟩
      exact ⟨['.'], mem_texts_exactly.2 rfl, w, mem_digits.2 (hw w rfl), rfl⟩

theorem mem_unit : t ∈ unitPattern.language ↔ t ∈ units := by
  rw [unitPattern, mem_ofAlternatives]
  simp only [List.mem_map, exists_exists_and_eq_and, mem_word, exists_eq_right']

theorem mem_gap : t ∈ gapPattern.language ↔ IsBlankText t := by
  rw [gapPattern, language, language_ofList_singleton, language, mem_between_texts]
  simp only [takes_ofKind]
  rw [and_iff_right (Nat.zero_le _), and_iff_right fun k hk => by cases hk]
  rfl

theorem mem_part : t ∈ partPattern.language ↔ ∃ p : Part, p.IsWritten ∧ t = p.text := by
  rw [partPattern, language_ofList, List.map_cons, List.map_cons, List.map_cons, List.map_singleton,
    List.prod_cons, List.prod_cons, List.prod_cons, List.prod_singleton]
  constructor
  · rintro ⟨whole, hwhole, _, ⟨v, hv, _, ⟨unit, hunit, gap, hgap, rfl⟩, rfl⟩, rfl⟩
    obtain ⟨fraction, hfraction, rfl⟩ := mem_fraction.1 hv
    exact ⟨⟨whole, fraction, unit, gap⟩,
      ⟨mem_digits.1 hwhole, hfraction, mem_unit.1 hunit, mem_gap.1 hgap⟩, rfl⟩
  · rintro ⟨p, hp, rfl⟩
    have hfraction := mem_fraction.2 ⟨p.fraction, hp.fraction, rfl⟩
    exact Language.append_mem_mul (mem_digits.2 hp.whole)
      (Language.append_mem_mul hfraction
        (Language.append_mem_mul (mem_unit.2 hp.unit) (mem_gap.2 hp.gap)))

theorem exists_map_text {us : List Text} (h : ∀ u ∈ us, ∃ p : Part, p.IsWritten ∧ u = p.text) :
    ∃ parts : List Part, (∀ p ∈ parts, p.IsWritten) ∧ us = parts.map Part.text := by
  induction us with
  | nil => exact ⟨[], by simp, rfl⟩
  | cons u us ih =>
    obtain ⟨⟨p, hp, rfl⟩, hus⟩ := List.forall_mem_cons.1 h
    obtain ⟨parts, hparts, rfl⟩ := ih hus
    exact ⟨p :: parts, List.forall_mem_cons.2 ⟨hp, hparts⟩, rfl⟩

theorem patternTakes_pattern_iff : PatternTakes pattern t ↔ ∃ parts, IsReading t parts := by
  have hplain : (ofList [.loop .greedy 1 none partPattern]).isPlain = true := by decide
  rw [patternTakes_iff ofText_pattern hplain, language_ofList_singleton, language]
  constructor
  · rintro ⟨n, hpos, -, hn⟩
    obtain ⟨us, rfl, rfl, hus⟩ := Language.mem_pow.1 hn
    obtain ⟨parts, hwritten, rfl⟩ := exists_map_text fun u hu => mem_part.1 (hus u hu)
    refine ⟨parts, (List.flatMap_def).symm, ?_, hwritten⟩
    rintro rfl
    cases hpos
  · rintro ⟨parts, rfl, hne, hwritten⟩
    refine ⟨parts.length, List.length_pos_iff.2 hne, (fun k hk => by cases hk), ?_⟩
    refine Language.mem_pow.2 ⟨parts.map Part.text, List.flatMap_def, List.length_map _, ?_⟩
    intro u hu
    obtain ⟨p, hp, rfl⟩ := List.mem_map.1 hu
    exact mem_part.2 ⟨p, hwritten p hp, rfl⟩

end

end Duration
end ConfigLint
