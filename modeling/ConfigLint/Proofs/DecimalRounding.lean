import Mathlib.Algebra.Order.Field.Power
import Mathlib.Data.Nat.Digits.Defs
import Mathlib.Order.WithBot
import ConfigLint.Proofs.Rounding
/-!
The floating-point number of a decimal number. `value?` is the rational number that a floating-point
number stands for, with something above and something below them all for the two infinities, and
`Rounds` says to which of these a rational number is rounded.

What is proved:
  1. `less_iff` and `isWhole_iff`: comparing counts of units compares numbers, and tells the integers
     among them.
  2. `Rounds.unique`: a rational number is rounded to one number only.
  3. `isRounding_ofDecimal`: the floating-point number of a decimal number is what that number is rounded
     to. Far from all finite numbers, where the power of ten is not computed, it is known without it.
-/
namespace ConfigLint
namespace Binary64

/-! ## The number that a floating-point number stands for -/

/-- A rational number among those that an infinity is above and another one below. -/
def ofRat (q : ℚ) : WithBot (WithTop ℚ) := (q : WithTop ℚ)

/-- The number that it stands for. -/
def value? : Binary64 → Option (WithBot (WithTop ℚ))
  | finite negative units => some (ofRat (signedUnits negative units / unit))
  | infinity false => some ⊤
  | infinity true => some ⊥
  | nan => none

@[simp] theorem ofRat_lt_ofRat {p q : ℚ} : ofRat p < ofRat q ↔ p < q := by
  simp [ofRat]

@[simp] theorem ofRat_le_ofRat {p q : ℚ} : ofRat p ≤ ofRat q ↔ p ≤ q := by
  simp [ofRat]

@[simp] theorem ofRat_inj {p q : ℚ} : ofRat p = ofRat q ↔ p = q := by
  simp [ofRat]

@[simp] theorem bot_lt_ofRat (q : ℚ) : ⊥ < ofRat q := WithBot.bot_lt_coe _

@[simp] theorem ofRat_lt_top (q : ℚ) : ofRat q < ⊤ := WithBot.coe_lt_coe.2 (WithTop.coe_lt_top q)

theorem eq_bot_or_eq_top_or_eq_ofRat (v : WithBot (WithTop ℚ)) : v = ⊥ ∨ v = ⊤ ∨ ∃ p, v = ofRat p := by
  cases v with
  | bot => exact .inl rfl
  | coe v =>
    cases v with
    | top => exact .inr (.inl rfl)
    | coe p => exact .inr (.inr ⟨p, rfl⟩)

theorem cast_unit : (unit : ℚ) = 2 ^ 1074 := by
  have hpow : unit = 2 ^ 1074 := by decide +kernel
  rw [hpow, Nat.cast_pow, Nat.cast_ofNat]

theorem unit_pos : (0 : ℚ) < unit := by
  rw [cast_unit]
  positivity

theorem eq_nan_of_value? {x : Binary64} (h : x.value? = none) : x = nan := by
  cases x with
  | finite negative units => cases h
  | infinity negative => cases negative <;> cases h
  | nan => rfl

theorem less_of_value? {x y : Binary64} {v w : WithBot (WithTop ℚ)} (hx : x.value? = some v)
    (hy : y.value? = some w) : x.less y = true ↔ v < w := by
  cases x with
  | nan => cases hx
  | infinity a =>
    cases y with
    | nan => cases hy
    | infinity b => cases a <;> cases b <;> cases hx <;> cases hy <;> simp [less]
    | finite b n =>
      cases hy
      generalize (signedUnits b n / unit : ℚ) = q
      cases a <;> cases hx <;> simp [less]
  | finite a m =>
    cases hx
    cases y with
    | nan => cases hy
    | infinity b =>
      generalize (signedUnits a m / unit : ℚ) = q
      cases b <;> cases hy <;> simp [less]
    | finite b n =>
      cases hy
      rw [ofRat_lt_ofRat, div_lt_div_iff_of_pos_right unit_pos, Int.cast_lt, less, decide_eq_true_eq]

theorem less_iff {x y : Binary64} :
    x.less y = true ↔ ∃ v w, x.value? = some v ∧ y.value? = some w ∧ v < w := by
  cases hx : x.value? with
  | none => simp [eq_nan_of_value? hx, less]
  | some v =>
    cases hy : y.value? with
    | none => cases x <;> simp [eq_nan_of_value? hy, less]
    | some w => simp [less_of_value? hx hy]

theorem not_less_iff {x y : Binary64} :
    ¬ x.less y = true ↔ ∀ v, x.value? = some v → ∀ w, y.value? = some w → w ≤ v := by
  rw [less_iff]
  constructor
  · intro h v hx w hy
    exact not_lt.1 fun hlt => h ⟨v, w, hx, hy, hlt⟩
  · rintro h ⟨v, w, hx, hy, hlt⟩
    exact hlt.not_ge (h v hx w hy)

theorem cast_signedUnits (negative : Bool) (units : ℕ) :
    (signedUnits negative units : ℚ) = if negative then -(units : ℚ) else units := by
  cases negative <;> simp [signedUnits]

theorem isWhole_iff {x : Binary64} : x.isWhole = true ↔ ∃ i : ℤ, x.value? = some (ofRat i) := by
  cases x with
  | nan => simp [isWhole, value?]
  | infinity a => cases a <;> simp [isWhole, value?, ofRat]
  | finite negative units =>
    have hdvd : units % unit = 0 ↔ ∃ i : ℤ, signedUnits negative units = i * unit := by
      rw [← Nat.dvd_iff_mod_eq_zero, ← Int.natCast_dvd_natCast]
      cases negative with
      | false => exact dvd_iff_exists_eq_mul_left
      | true =>
        rw [← dvd_neg]
        exact dvd_iff_exists_eq_mul_left
    simp only [isWhole, value?, beq_iff_eq, hdvd, Option.some.injEq, ofRat_inj,
      div_eq_iff unit_pos.ne']
    exact exists_congr fun i => by norm_cast

/-! ## What a rational number is rounded to -/

/-- The number with a count of units; a count that is too large makes an infinity. -/
def ofUnits (u : ℚ) : WithBot (WithTop ℚ) :=
  if limit ≤ u then ⊤ else if u ≤ -limit then ⊥ else ofRat (u / unit)

/-- `q` is rounded to the number `v`: its count of units is nearest to that of `q`. -/
def Rounds (q : ℚ) (v : WithBot (WithTop ℚ)) : Prop := ∃ u, IsNearest (q * unit) u ∧ ofUnits u = v

/-- `q` is rounded to what `x` stands for. -/
def IsRounding (x : Binary64) (q : ℚ) : Prop := ∃ v, x.value? = some v ∧ Rounds q v

theorem cast_limit : (limit : ℚ) = 2 ^ 2098 := by
  have hpow : limit = 2 ^ 2098 := by decide +kernel
  rw [hpow, Nat.cast_pow, Nat.cast_ofNat]

theorem limit_pos : (0 : ℚ) < limit := by
  rw [cast_limit]
  positivity

theorem isShort_limit : IsShort limit := by
  refine ⟨1, 2098, by norm_num, ?_⟩
  rw [cast_limit, Int.cast_one, one_mul]

theorem ofUnits_mono : Monotone ofUnits := by
  intro u u' hle
  have hpos := limit_pos
  unfold ofUnits
  by_cases hover : limit ≤ u'
  · rw [if_pos hover]
    exact le_top
  · by_cases hunder : u ≤ -limit
    · rw [if_neg (by linarith), if_pos hunder]
      exact bot_le
    · rw [if_neg (by linarith), if_neg hunder, if_neg hover, if_neg (by linarith), ofRat_le_ofRat]
      exact div_le_div_of_nonneg_right hle unit_pos.le

/-- If it is finite, it needs no rounding. -/
def IsNumber (x : Binary64) : Prop := ∀ p, x.value? = some (ofRat p) → Rounds p (ofRat p)

theorem ofUnits_eq_ofRat {u p : ℚ} (h : ofUnits u = ofRat p) : u = p * unit := by
  unfold ofUnits at h
  split at h
  · cases h
  · split at h
    · cases h
    · rw [← ofRat_inj.1 h, div_mul_cancel₀ u unit_pos.ne']

namespace Rounds

variable {p q : ℚ} {v w : WithBot (WithTop ℚ)}

theorem mono (hv : Rounds p v) (hw : Rounds q w) (hle : p ≤ q) : v ≤ w := by
  obtain ⟨u, hnear, rfl⟩ := hv
  obtain ⟨u', hnear', rfl⟩ := hw
  exact ofUnits_mono (hnear.mono hnear' (mul_le_mul_of_nonneg_right hle unit_pos.le))

theorem unique (hv : Rounds q v) (hw : Rounds q w) : v = w :=
  le_antisymm (hv.mono hw le_rfl) (hw.mono hv le_rfl)

/-- What a number is rounded to needs no further rounding. -/
theorem self (h : Rounds q (ofRat p)) : Rounds p (ofRat p) := by
  obtain ⟨u, hnear, hu⟩ := h
  have hp : u = p * unit := ofUnits_eq_ofRat hu
  exact ⟨u, hp ▸ hnear.short.isNearest, hu⟩

/-- A number at or below `q` is not above what `q` is rounded to. -/
theorem le_of_value? {x : Binary64} (hv : Rounds q v) (number : x.IsNumber) (hx : x.value? = some w)
    (hle : w ≤ ofRat q) : w ≤ v := by
  rcases eq_bot_or_eq_top_or_eq_ofRat w with rfl | rfl | ⟨p, rfl⟩
  · exact bot_le
  · exact absurd (ofRat_lt_top q) hle.not_gt
  · exact (number p hx).mono hv (ofRat_le_ofRat.1 hle)

/-- A number at or above `q` is not below what `q` is rounded to. -/
theorem ge_of_value? {x : Binary64} (hv : Rounds q v) (number : x.IsNumber) (hx : x.value? = some w)
    (hle : ofRat q ≤ w) : v ≤ w := by
  rcases eq_bot_or_eq_top_or_eq_ofRat w with rfl | rfl | ⟨p, rfl⟩
  · exact absurd (bot_lt_ofRat q) hle.not_gt
  · exact le_top
  · exact hv.mono (number p hx) (ofRat_le_ofRat.1 hle)

theorem exists_int {i : ℤ} (h : Rounds i (ofRat p)) : ∃ j : ℤ, p = j := by
  obtain ⟨u, hnear, hu⟩ := h
  rw [cast_unit] at hnear
  obtain ⟨j, hj⟩ := hnear.exists_multiple
  rw [← cast_unit, ofUnits_eq_ofRat hu] at hj
  exact ⟨j, mul_right_cancel₀ unit_pos.ne' hj⟩

end Rounds

theorem IsRounding.isNumber {x : Binary64} {q : ℚ} (h : x.IsRounding q) : x.IsNumber := by
  intro p hp
  obtain ⟨v, hv, hrounds⟩ := h
  obtain rfl := Option.some.inj (hp.symm.trans hv)
  exact hrounds.self

/-! ## The floating-point number of a quotient -/

def signed (negative : Bool) (q : ℚ) : ℚ := if negative then -q else q

theorem IsNearest.signed {q u : ℚ} (h : IsNearest (q * unit) u) (negative : Bool) :
    IsNearest (signed negative q * unit) (Binary64.signed negative u) := by
  cases negative with
  | false => exact h
  | true =>
    have hneg : -q * unit = -(q * unit) := neg_mul _ _
    exact hneg ▸ h.neg

section
variable {q u : ℚ} {units num den : ℕ}

theorem signed_bounds (negative : Bool) {bound : ℚ} (hu : 0 ≤ u) (h : u < bound) :
    -bound < signed negative u ∧ signed negative u < bound := by
  cases negative with
  | false =>
    have hbelow : -bound < u := by linarith
    exact ⟨hbelow, h⟩
  | true =>
    have habove : -u < bound := by linarith
    exact ⟨neg_lt_neg h, habove⟩

theorem isRounding_finite (negative : Bool) (h : IsNearest (q * unit) units) (hsmall : units < limit) :
    (finite negative units).IsRounding (signed negative q) := by
  have hbound : (units : ℚ) < limit := Nat.cast_lt.2 hsmall
  obtain ⟨habove, hbelow⟩ := signed_bounds negative (Nat.cast_nonneg units) hbound
  refine ⟨_, rfl, _, h.signed negative, ?_⟩
  rw [ofUnits, if_neg (not_le.2 hbelow), if_neg (not_le.2 habove), cast_signedUnits, signed]

theorem isRounding_infinity (negative : Bool) (h : IsNearest (q * unit) u) (hlarge : limit ≤ u) :
    (infinity negative).IsRounding (signed negative q) := by
  have hpos := limit_pos
  cases negative with
  | false => exact ⟨⊤, rfl, u, h, if_pos hlarge⟩
  | true =>
    refine ⟨⊥, rfl, -u, h.signed true, ?_⟩
    rw [ofUnits, if_neg (by linarith), if_pos (by linarith)]

theorem isNearest_ratio (num : ℕ) (hden : 0 < den) :
    IsNearest ((num / den : ℚ) * unit) (unitsOfRatio num den) := by
  have hcount : (num / den : ℚ) * unit = ((num * unit : ℕ) : ℚ) / den := by
    push_cast
    ring
  rw [hcount]
  exact isNearest_unitsOfRatio num hden

theorem isRounding_ofRatio (negative : Bool) (num : ℕ) (hden : 0 < den) :
    (ofRatio negative num den).IsRounding (signed negative (num / den)) := by
  rw [ofRatio]
  split
  · next hsmall => exact isRounding_finite negative (isNearest_ratio num hden) hsmall
  · next hlarge =>
    exact isRounding_infinity negative (isNearest_ratio num hden) (Nat.cast_le.2 (Nat.not_lt.1 hlarge))

end

/-! ## The floating-point number of a decimal number -/

/-- A decimal number lies between the powers of ten that the number of its digits tells. -/
theorem decimal_bounds {digits : ℕ} (hne : digits ≠ 0) (exponent : ℤ) :
    (10 : ℚ) ^ ((Nat.toDigits 10 digits).length + exponent - 1) ≤ digits * 10 ^ exponent ∧
      digits * 10 ^ exponent < (10 : ℚ) ^ ((Nat.toDigits 10 digits).length + exponent) := by
  obtain ⟨k, hk⟩ : ∃ k, (Nat.toDigits 10 digits).length = k + 1 :=
    Nat.exists_eq_succ_of_ne_zero (List.length_pos_iff.2 Nat.toDigits_ne_nil).ne'
  have hhigh : digits < 10 ^ (k + 1) :=
    (Nat.length_toDigits_le_iff (by decide) k.succ_pos).1 hk.le
  have hlow : 10 ^ k ≤ digits := by
    rcases Nat.eq_zero_or_pos k with rfl | hpos
    · exact Nat.one_le_iff_ne_zero.2 hne
    · rw [← Nat.not_lt, ← Nat.length_toDigits_le_iff (by decide) hpos, hk]
      exact Nat.not_succ_le_self k
  have hpos : (0 : ℚ) < 10 ^ exponent := by positivity
  have hten : (10 : ℚ) ≠ 0 := by norm_num
  rw [hk]
  constructor
  · have hsplit : ((k + 1 : ℕ) : ℤ) + exponent - 1 = k + exponent := by
      push_cast
      ring
    rw [hsplit, zpow_add₀ hten, zpow_natCast]
    exact mul_le_mul_of_nonneg_right (by exact_mod_cast hlow) hpos.le
  · rw [zpow_add₀ hten, zpow_natCast]
    exact mul_lt_mul_of_pos_right (by exact_mod_cast hhigh) hpos

theorem isNearest_zero {u : ℚ} (hu : 0 ≤ u) (h : u < 1 / 2) : IsNearest u 0 := by
  have hzero : IsGridNearest u (2 ^ 0) 0 := by
    constructor <;> rw [Int.cast_zero, zero_mul, sub_zero, abs_of_nonneg hu, pow_zero]
    · exact h.le
    · exact fun _ => Even.zero
  have hnear := hzero.isNearest hu (h.trans (by norm_num)) (.inl rfl)
  rwa [Int.cast_zero, zero_mul] at hnear

theorem isRounding_tiny (negative : Bool) {q bound : ℚ} (hq : 0 ≤ q) (hbound : 2 * unit ≤ bound)
    (h : q * bound < 1) : (finite negative 0).IsRounding (signed negative q) := by
  have hcount : 2 * (q * unit) < 1 :=
    calc 2 * (q * unit) = q * (2 * unit) := by ring
      _ ≤ q * bound := mul_le_mul_of_nonneg_left hbound hq
      _ < 1 := h
  have hnear : IsNearest (q * unit) (0 : ℕ) := by
    rw [Nat.cast_zero]
    exact isNearest_zero (mul_nonneg hq unit_pos.le) (by linarith)
  exact isRounding_finite negative hnear (Nat.cast_pos.1 limit_pos)

theorem exists_isNearest {q : ℚ} (hq : 0 ≤ q) : ∃ u, IsNearest (q * unit) u := by
  refine ⟨unitsOfRatio q.num.natAbs q.den, ?_⟩
  have hratio : q = (q.num.natAbs : ℚ) / q.den := by
    rw [Nat.cast_natAbs, abs_of_nonneg (Rat.num_nonneg.2 hq), Rat.num_div_den]
  nth_rewrite 1 [hratio]
  exact isNearest_ratio _ q.den_pos

theorem isRounding_huge (negative : Bool) {q bound : ℚ} (hbound : limit ≤ bound * unit)
    (h : bound ≤ q) (hq : 0 ≤ q) : (infinity negative).IsRounding (signed negative q) := by
  obtain ⟨u, hu⟩ := exists_isNearest hq
  have hcount : (limit : ℚ) ≤ q * unit := hbound.trans (mul_le_mul_of_nonneg_right h unit_pos.le)
  exact isRounding_infinity negative hu (isShort_limit.isNearest.mono hu hcount)

theorem two_pow_le_ten_pow {a b : ℕ} (h : a ≤ 3 * b) : (2 : ℚ) ^ a ≤ 10 ^ b :=
  calc (2 : ℚ) ^ a ≤ 2 ^ (3 * b) := pow_le_pow_right₀ one_le_two h
    _ = (2 ^ 3) ^ b := pow_mul 2 3 b
    _ ≤ 10 ^ b := pow_le_pow_left₀ (by norm_num) (by norm_num) b

theorem two_mul_unit_le : (2 * unit : ℚ) ≤ 10 ^ 401 := by
  rw [cast_unit, ← pow_succ']
  exact two_pow_le_ten_pow (by decide)

theorem limit_le : (limit : ℚ) ≤ 10 ^ 400 * unit := by
  have hsplit : (2 : ℚ) ^ 2098 = 2 ^ 1024 * 2 ^ 1074 := pow_add 2 1024 1074
  rw [cast_limit, cast_unit, hsplit]
  exact mul_le_mul_of_nonneg_right (two_pow_le_ten_pow (by decide)) (by positivity)

/-- The floating-point number of a decimal number is what that number is rounded to. -/
theorem isRounding_ofDecimal (negative : Bool) (digits : ℕ) (exponent : ℤ) :
    (ofDecimal negative digits exponent).IsRounding (signed negative (digits * 10 ^ exponent)) := by
  have hpos : (0 : ℚ) ≤ digits * 10 ^ exponent := by positivity
  have hten : (1 : ℚ) ≤ 10 := by norm_num
  unfold ofDecimal
  by_cases hzero : digits = 0
  · have htiny : (digits * 10 ^ exponent : ℚ) * 10 ^ 401 < 1 := by
      rw [hzero, Nat.cast_zero, zero_mul, zero_mul]
      exact one_pos
    rw [if_pos (.inl hzero)]
    exact isRounding_tiny negative hpos two_mul_unit_le htiny
  obtain ⟨hlow, hhigh⟩ := decimal_bounds hzero exponent
  simp only [hzero, false_or]
  -- the two cases without a power first, then the quotients
  split
  · have htiny : (digits * 10 ^ exponent : ℚ) * 10 ^ 401 < 1 := by
      rw [← zpow_natCast, ← lt_div_iff₀ (by positivity), one_div, ← zpow_neg]
      exact hhigh.trans_le (zpow_le_zpow_right₀ hten (by omega))
    exact isRounding_tiny negative hpos two_mul_unit_le htiny
  · split
    · have hhuge : (10 : ℚ) ^ 400 ≤ digits * 10 ^ exponent := by
        rw [← zpow_natCast]
        exact (zpow_le_zpow_right₀ hten (by omega)).trans hlow
      exact isRounding_huge negative limit_le hhuge hpos
    · split
      · next hneg =>
        have hratio := isRounding_ofRatio negative digits
          (Nat.pow_pos (n := exponent.natAbs) (by decide : 0 < 10))
        have hexponent : (10 : ℚ) ^ exponent = ((10 ^ exponent.natAbs : ℕ) : ℚ)⁻¹ := by
          rw [Nat.cast_pow, Nat.cast_ofNat, ← zpow_natCast, ← zpow_neg]
          congr 1
          omega
        rw [hexponent, ← div_eq_mul_inv]
        exact hratio
      · next hnonneg =>
        have hratio := isRounding_ofRatio negative (digits * 10 ^ exponent.natAbs) one_pos
        have hexponent : (10 : ℚ) ^ exponent = ((10 ^ exponent.natAbs : ℕ) : ℚ) := by
          rw [Nat.cast_pow, Nat.cast_ofNat, ← zpow_natCast]
          congr 1
          omega
        rw [hexponent, ← Nat.cast_mul, ← div_one ((_ : ℕ) : ℚ), ← Nat.cast_one]
        exact hratio

end Binary64
end ConfigLint
