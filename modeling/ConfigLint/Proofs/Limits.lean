import ConfigLint.Proofs.Acceptance
import ConfigLint.Proofs.Numerals
/-!
The limits of numbers. `Admits` says of a number, the infinities included, that it keeps to the
constraints of an option; the check asks this of what the written number is rounded to.

What is proved:
  1. `checkNumber_eq_none`: a text passes the check if it writes a number that keeps to the constraints
     once it is rounded.
  2. `Admits.of_rounds`: rounding does not lead out of the constraints, as their limits need no rounding
     and rounding keeps the order. It can lead into them (`not_accepts_number_exact`).
  3. `accepts_number_iff`: this decides which values an option for numbers without a pattern accepts.
-/
namespace ConfigLint

namespace Constraints
open Binary64

/-- A number keeps to the constraints. A limit that stands for no number is none. -/
structure Admits (c : Constraints) (v : WithBot (WithTop ℚ)) : Prop where
  whole : c.integer = true → ∃ i : ℤ, v = ofRat i
  min : ∀ m, c.min = some m → ∀ w, m.value? = some w → w ≤ v
  max : ∀ m, c.max = some m → ∀ w, m.value? = some w → v ≤ w

/-- The limits need no rounding. -/
def HasNumbers (c : Constraints) : Prop :=
  ∀ m : Binary64, c.min = some m ∨ c.max = some m → m.IsNumber

section
variable {c : Constraints} {x : Binary64} {q : ℚ} {v : WithBot (WithTop ℚ)}

/-- A floating-point number passes the check if the number that it stands for keeps to the
    constraints. -/
theorem checkNumber_eq_none (hx : x.value? = some v) : c.checkNumber x = none ↔ c.Admits v := by
  have hwhole : (c.integer && !x.isWhole) = false ↔ (c.integer = true → ∃ i : ℤ, v = ofRat i) := by
    have hinteger : x.isWhole = true ↔ ∃ i : ℤ, v = ofRat i := by
      rw [isWhole_iff, hx]
      simp only [Option.some.injEq]
    rw [← hinteger]
    cases c.integer <;> simp
  have hmin : c.min.filter x.less = none ↔
      ∀ m, c.min = some m → ∀ w, m.value? = some w → w ≤ v := by
    simp only [Option.filter_eq_none_iff, not_less_iff, hx, Option.some.injEq, forall_eq']
  have hmax : c.max.filter (Binary64.less · x) = none ↔
      ∀ m, c.max = some m → ∀ w, m.value? = some w → v ≤ w := by
    simp only [Option.filter_eq_none_iff, not_less_iff, hx, Option.some.injEq, forall_eq']
  have hparts : c.Admits v ↔ (c.integer && !x.isWhole) = false ∧ c.min.filter x.less = none ∧
      c.max.filter (Binary64.less · x) = none := by
    rw [hwhole, hmin, hmax]
    exact ⟨fun h => ⟨h.whole, h.min, h.max⟩, fun h => ⟨h.1, h.2.1, h.2.2⟩⟩
  rw [hparts, checkNumber]
  cases (c.integer && !x.isWhole) with
  | true => simp
  | false => cases c.min.filter x.less <;> simp

/-- A number that keeps to the constraints still does when it is rounded, unless it should be an
    integer and is rounded to an infinity. -/
theorem Admits.of_rounds (h : c.Admits (ofRat q)) (numbers : c.HasNumbers) (hv : Rounds q v)
    (finite : c.integer = true → ∃ p, v = ofRat p) : c.Admits v := by
  refine ⟨?_, ?_, ?_⟩
  · intro hinteger
    obtain ⟨i, hi⟩ := h.whole hinteger
    obtain ⟨p, rfl⟩ := finite hinteger
    rw [ofRat_inj.1 hi] at hv
    obtain ⟨j, rfl⟩ := hv.exists_int
    exact ⟨j, rfl⟩
  · intro m hm w hw
    exact hv.le_of_value? (numbers m (.inl hm)) hw (h.min m hm w hw)
  · intro m hm w hw
    exact hv.ge_of_value? (numbers m (.inr hm)) hw (h.max m hm w hw)

end
end Constraints

/-- A text is a number that keeps to the constraints after it has been rounded. -/
theorem checkNumber_eq_none {c : Constraints} {t : Text} : checkNumber c t = none ↔
    ∃ n v, Numeral.IsWritten t n ∧ Binary64.Rounds n.value v ∧ c.Admits v := by
  rw [checkNumber]
  cases hread : Numeral.ofText? t with
  | none =>
    constructor
    · intro h
      cases h
    · rintro ⟨n, -, hwritten, -⟩
      rw [← Numeral.ofText?_eq_some_iff, hread] at hwritten
      cases hwritten
  | some n =>
    have hwritten : n.IsWritten t := Numeral.ofText?_eq_some_iff.1 hread
    obtain ⟨v, hv, hrounds⟩ := n.isRounding_toBinary64
    simp only []
    rw [Constraints.checkNumber_eq_none hv]
    constructor
    · intro h
      exact ⟨n, v, hwritten, hrounds, h⟩
    · rintro ⟨n', v', hwritten', hrounds', h⟩
      rw [← Numeral.ofText?_eq_some_iff, hread, Option.some.injEq] at hwritten'
      subst hwritten'
      rwa [hrounds.unique hrounds']

namespace Schema
open Binary64

/-- An option for numbers that has no pattern accepts the values that write a number, if what this is
    rounded to keeps to the constraints. A number that keeps to them itself is accepted, unless it should
    be an integer and is beyond all finite numbers. -/
theorem accepts_number_iff [Interpreter] (s : Schema) (o : OptionDecl) (value : Text)
    (kind : o.type = ValueKind.number.name) (plain : o.HasNoPattern) :
    (s.Accepts o value ↔ ∃ n v, Numeral.IsWritten value.trim n ∧ Rounds n.value v ∧
      o.constraints.Admits v) ∧
    ∀ n, Numeral.IsWritten value.trim n → o.constraints.Admits (ofRat n.value) →
      o.constraints.HasNumbers → (o.constraints.integer = true → ∃ p, Rounds n.value (ofRat p)) →
      s.Accepts o value := by
  have htype : s.HasType o value ↔ checkNumber o.constraints value.trim = none := by
    simp only [HasType, OptionDecl.checkType, kind, ValueKind.ofName?_name, Except.ok.injEq]
  rw [accepts_of_no_pattern plain, htype, checkNumber_eq_none]
  refine ⟨Iff.rfl, ?_⟩
  intro n hwritten hadmits hnumbers hfinite
  obtain ⟨v, -, hv⟩ := n.isRounding_toBinary64
  refine ⟨n, v, hwritten, hv, hadmits.of_rounds hnumbers hv ?_⟩
  intro hinteger
  obtain ⟨p, hp⟩ := hfinite hinteger
  exact ⟨p, hv.unique hp⟩

def fromTenth : OptionDecl :=
  { type := "number".toList, constraints := { min := some (ofDecimal false 1 (-1)) } }

theorem value?_tenth :
    (ofDecimal false 1 (-1)).value? = some (ofRat (3602879701896397 / 36028797018963968)) := by
  have hlimit : ofDecimal false 1 (-1) = finite false (3602879701896397 * 2 ^ 1019) := by
    decide +kernel
  have hunit : unit = 36028797018963968 * 2 ^ 1019 := by
    decide +kernel
  have hpos : (0 : ℚ) < (2 ^ 1019 : ℕ) := Nat.cast_pos.2 (by decide +kernel)
  rw [hlimit, value?, hunit, cast_signedUnits, if_neg Bool.false_ne_true, Nat.cast_mul, Nat.cast_mul,
    mul_div_mul_right _ _ hpos.ne', Nat.cast_ofNat, Nat.cast_ofNat]

/-- A number with a sign, digits of two scripts and white space around it. -/
theorem accepts_number_iff_fromTenth :
    let value : Text := " +\u0661.50\t".toList
    fromTenth.type = ValueKind.number.name ∧ fromTenth.HasNoPattern ∧
      fallback.Accepts fromTenth value ∧
      ∃ n v, Numeral.IsWritten value.trim n ∧ Rounds n.value v ∧ fromTenth.constraints.Admits v := by
  intro value
  have hplain : fromTenth.HasNoPattern := .inl rfl
  obtain ⟨hiff, hexact⟩ := accepts_number_iff fallback fromTenth value rfl hplain
  have hwritten : Numeral.IsWritten value.trim ⟨false, [1], [5, 0]⟩ :=
    Numeral.ofText?_eq_some_iff.1 (by decide +kernel)
  have hvalue : Numeral.value ⟨false, [1], [5, 0]⟩ = 3 / 2 := by
    decide +kernel
  have hadmits : fromTenth.constraints.Admits (ofRat (3 / 2)) := by
    refine ⟨(by cases ·), ?_, fun _ hm => (by cases hm)⟩
    intro m hm w hw
    rw [← Option.some.inj hm, value?_tenth, Option.some.injEq] at hw
    rw [← hw, ofRat_le_ofRat]
    norm_num
  have hnumbers : fromTenth.constraints.HasNumbers := by
    rintro m (hm | hm)
    · rw [← Option.some.inj hm]
      exact (isRounding_ofDecimal false 1 (-1)).isNumber
    · cases hm
  have haccepted : fallback.Accepts fromTenth value :=
    hexact _ hwritten (hvalue ▸ hadmits) hnumbers (by cases ·)
  exact ⟨rfl, hplain, haccepted, hiff.1 haccepted⟩

/-- The exact number alone does not decide: a tenth is accepted. -/
theorem not_accepts_number_exact :
    fallback.Accepts fromTenth "0.1".toList ∧
      ¬ ∃ n, Numeral.IsWritten (Text.trim "0.1".toList) n ∧
        fromTenth.constraints.Admits (ofRat n.value) := by
  constructor
  · rw [Accepts]
    decide +kernel
  · rintro ⟨n, hwritten, hadmits⟩
    have hn : n = ⟨false, [0], [1]⟩ := by
      have hread : Numeral.ofText? (Text.trim "0.1".toList) = some ⟨false, [0], [1]⟩ := by
        decide +kernel
      rw [← Numeral.ofText?_eq_some_iff, hread, Option.some.injEq] at hwritten
      exact hwritten.symm
    have hvalue : n.value = 1 / 10 := by
      rw [hn]
      decide +kernel
    have hle := hadmits.min _ rfl _ value?_tenth
    rw [hvalue, ofRat_le_ofRat] at hle
    norm_num at hle

end Schema
end ConfigLint
