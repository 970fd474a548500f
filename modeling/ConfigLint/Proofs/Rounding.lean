import Mathlib.Algebra.Order.Ring.Abs
import Mathlib.Data.Rat.Cast.Order
import Mathlib.Tactic.FieldSimp
import Mathlib.Tactic.Linarith
import Mathlib.Tactic.Positivity
import Mathlib.Tactic.Ring
import ConfigLint.Decimal.Binary64
/-!
Rounding to the nearest floating-point number. Everything is counted in units, the distance of the
numbers next to zero: `IsShort` says which counts belong to a number, the size of numbers aside, and
`IsNearest` to which of them a count is rounded.

What is proved:
  1. `IsNearest.unique` and `IsNearest.mono`: at most one number is the nearest, and rounding keeps the
     order.
  2. `roundHalfEven_spec`: a quotient is rounded to a whole number at most a half away.
  3. `IsGridNearest.isNearest`: on a grid that keeps 53 digits, the nearest multiple is the nearest of
     all numbers. No number off the grid can be nearer, as these are smaller than a multiple that is no
     larger than what is rounded.
  4. `isNearest_unitsOfRatio`: so the units of a quotient are the nearest.
-/
namespace ConfigLint
namespace Binary64

/-! ## The nearest number -/

/-- A count of units with at most 53 binary digits, the zeros at its end aside. -/
def IsShort (u : ℚ) : Prop := ∃ (m : ℤ) (e : ℕ), |m| < 2 ^ 53 ∧ u = m * 2 ^ e

/-- `r` is the short count nearest to `u`. Of two that are equally near, it is the one that is an even
    multiple of their distance. -/
structure IsNearest (u r : ℚ) : Prop where
  short : IsShort r
  near : ∀ y, IsShort y → |u - r| ≤ |u - y|
  even : ∀ y, IsShort y → y ≠ r → |u - y| = |u - r| → ∃ k : ℤ, r = 2 * k * (r - y)

theorem IsShort.neg {u : ℚ} (h : IsShort u) : IsShort (-u) := by
  obtain ⟨m, e, hm, rfl⟩ := h
  refine ⟨-m, e, by rwa [abs_neg], ?_⟩
  push_cast
  ring

theorem IsShort.isNearest {u : ℚ} (h : IsShort u) : IsNearest u u := by
  refine ⟨h, ?_, ?_⟩
  · intro y _
    rw [sub_self, abs_zero]
    exact abs_nonneg _
  · intro y _ hne htie
    rw [sub_self, abs_zero, abs_eq_zero, sub_eq_zero] at htie
    exact absurd htie.symm hne

namespace IsNearest

variable {u u' r r' s : ℚ}

theorem neg (h : IsNearest u r) : IsNearest (-u) (-r) := by
  have hflip : ∀ y, |-u - y| = |u - -y| := by
    intro y
    rw [← abs_neg (-u - y)]
    congr 1
    ring
  refine ⟨h.short.neg, ?_, ?_⟩
  · intro y hy
    rw [hflip, hflip, neg_neg]
    exact h.near _ hy.neg
  · intro y hy hne htie
    rw [hflip, hflip, neg_neg] at htie
    obtain ⟨k, hk⟩ := h.even _ hy.neg (fun heq => hne (by rw [← heq, neg_neg])) htie
    refine ⟨k, ?_⟩
    calc -r = -(2 * k * (r - -y)) := by rw [← hk]
      _ = 2 * k * (-r - y) := by ring

/-- Two counts are not both an even multiple of their distance, so only one is the nearest. -/
theorem unique (hr : IsNearest u r) (hs : IsNearest u s) : r = s := by
  by_contra hne
  have htie : |u - r| = |u - s| := le_antisymm (hr.near s hs.short) (hs.near r hr.short)
  obtain ⟨k, hk⟩ := hr.even s hs.short (Ne.symm hne) htie.symm
  obtain ⟨l, hl⟩ := hs.even r hr.short hne htie
  have hdist : r - s ≠ 0 := sub_ne_zero.2 hne
  have hone : (2 * (k + l) : ℚ) * (r - s) = 1 * (r - s) := by linarith
  have hcast : ((2 * (k + l) : ℤ) : ℚ) = ((1 : ℤ) : ℚ) := by
    push_cast
    exact mul_right_cancel₀ hdist hone
  have hodd : 2 * (k + l) = 1 := Int.cast_injective hcast
  omega

/-- Of two numbers the larger is nearer from the middle on, and the smaller up to there. -/
theorem nearer_iff (h : s < r) :
    (|u - r| ≤ |u - s| ↔ r + s ≤ 2 * u) ∧ (|u - s| ≤ |u - r| ↔ 2 * u ≤ r + s) := by
  rw [← sq_le_sq, ← sq_le_sq]
  have hdist : 0 < r - s := sub_pos.2 h
  have hdiff : (u - s) ^ 2 - (u - r) ^ 2 = (r - s) * (2 * u - (r + s)) := by ring
  constructor
  · rw [← sub_nonneg, hdiff, mul_nonneg_iff_of_pos_left hdist, sub_nonneg]
  · rw [← not_lt, ← sub_pos, hdiff, mul_pos_iff_of_pos_left hdist, sub_pos, not_lt]

theorem mono (h : IsNearest u r) (h' : IsNearest u' r') (hle : u ≤ u') : r ≤ r' := by
  by_contra hlt
  rw [not_le] at hlt
  -- `u` lies above the middle of the two, and `u'` below it
  have hhigh : r + r' ≤ 2 * u := (nearer_iff hlt).1.1 (h.near r' h'.short)
  have hlow : 2 * u' ≤ r + r' := (nearer_iff hlt).2.1 (h'.near r h.short)
  have heq : u = u' := by linarith
  rw [heq] at h
  exact hlt.ne' (h.unique h')

end IsNearest

/-! ## Rounding to a grid -/

/-- The quotient is rounded to a whole number that is at most a half away, and to an even one if it is
    that far. -/
theorem roundHalfEven_spec (num : Nat) {den : Nat} (hden : 0 < den) :
    2 * num ≤ 2 * (roundHalfEven num den * den) + den ∧
    2 * (roundHalfEven num den * den) ≤ 2 * num + den ∧
    (2 * num = 2 * (roundHalfEven num den * den) + den ∨
      2 * (roundHalfEven num den * den) = 2 * num + den → roundHalfEven num den % 2 = 0) := by
  have hrem : num % den < den := Nat.mod_lt num hden
  have hnum : num / den * den + num % den = num := Nat.div_add_mod' num den
  have hnext : (num / den + 1) * den = num / den * den + den := Nat.succ_mul _ _
  rw [roundHalfEven]
  split
  · omega
  · split
    · rw [hnext]
      omega
    · rcases Nat.mod_two_eq_zero_or_one (num / den) with heven | hodd
      · rw [heven, Nat.add_zero]
        omega
      · rw [hodd, hnext]
        omega

/-- The multiple `w` of `grid` is at most half of it away from `u`, and even if it is that far. -/
structure IsGridNearest (u grid : ℚ) (w : ℤ) : Prop where
  half : |u - w * grid| ≤ grid / 2
  even : |u - w * grid| = grid / 2 → Even w

theorem roundHalfEven_isGridNearest (num : Nat) {den grid : Nat} (hden : 0 < den) (hgrid : 0 < grid) :
    IsGridNearest (num / den) grid (roundHalfEven num (den * grid)) := by
  obtain ⟨hhigh, hlow, htie⟩ := roundHalfEven_spec num (Nat.mul_pos hden hgrid)
  generalize roundHalfEven num (den * grid) = w at *
  have hd : (0 : ℚ) < den := Nat.cast_pos.2 hden
  have hhigh' : (2 * num : ℚ) ≤ 2 * (w * (den * grid)) + den * grid := by exact_mod_cast hhigh
  have hlow' : (2 * (w * (den * grid)) : ℚ) ≤ 2 * num + den * grid := by exact_mod_cast hlow
  have hdist : (num / den - (w : ℤ) * (grid : ℚ)) = (num - w * (den * grid)) / den := by
    field_simp
    push_cast
    ring
  have hhalf : (grid : ℚ) / 2 = (den * grid / 2) / den := by
    field_simp
  constructor
  · rw [hdist, hhalf, abs_div, abs_of_pos hd, div_le_div_iff_of_pos_right hd, abs_le]
    constructor <;> linarith
  · rw [hdist, hhalf, abs_div, abs_of_pos hd, div_left_inj' hd.ne']
    intro heq
    rw [Int.even_coe_nat, Nat.even_iff]
    apply htie
    rcases eq_or_eq_neg_of_abs_eq heq with habove | hbelow
    · left
      have : (2 * num : ℚ) = 2 * (w * (den * grid)) + den * grid := by linarith
      exact_mod_cast this
    · right
      have : (2 * (w * (den * grid)) : ℚ) = 2 * num + den * grid := by linarith
      exact_mod_cast this

section
variable {u grid : ℚ} {w : ℤ}

/-- Two multiples are at least one step apart, and so are their distances from `u` together. -/
theorem grid_le_abs_add_abs (u : ℚ) (hgrid : 0 < grid) {j : ℤ} (hne : j ≠ w) :
    |((w - j : ℤ) : ℚ)| * grid ≤ |u - w * grid| + |u - j * grid| ∧
      grid ≤ |((w - j : ℤ) : ℚ)| * grid := by
  have hone : (1 : ℚ) ≤ |((w - j : ℤ) : ℚ)| := by
    rw [← Int.cast_abs]
    exact_mod_cast Int.one_le_abs (sub_ne_zero.2 hne.symm)
  constructor
  · calc |((w - j : ℤ) : ℚ)| * grid = |w * grid - j * grid| := by
          rw [← sub_mul, abs_mul, abs_of_pos hgrid, ← Int.cast_sub]
      _ ≤ |w * grid - u| + |u - j * grid| := abs_sub_le _ _ _
      _ = |u - w * grid| + |u - j * grid| := by rw [abs_sub_comm u (w * grid)]
  · exact le_mul_of_one_le_left hgrid.le hone

namespace IsGridNearest

theorem near (h : IsGridNearest u grid w) (hgrid : 0 < grid) (j : ℤ) :
    |u - w * grid| ≤ |u - j * grid| := by
  by_cases hne : j = w
  · rw [hne]
  · obtain ⟨htriangle, hapart⟩ := grid_le_abs_add_abs u hgrid hne
    linarith [h.half]

/-- Of two multiples that are equally near, they are one step apart and the nearest is even. -/
theorem even_of_tie (h : IsGridNearest u grid w) (hgrid : 0 < grid) {j : ℤ} (hne : j ≠ w)
    (htie : |u - j * grid| = |u - w * grid|) :
    ∃ k : ℤ, (w * grid : ℚ) = 2 * k * (w * grid - j * grid) := by
  obtain ⟨htriangle, hapart⟩ := grid_le_abs_add_abs u hgrid hne
  have hhalf : |u - w * grid| = grid / 2 := by linarith [h.half]
  have hone : |w - j| = 1 := by
    have hstep : |((w - j : ℤ) : ℚ)| * grid = grid := by linarith
    rw [mul_eq_right₀ hgrid.ne', ← Int.cast_abs] at hstep
    exact_mod_cast hstep
  obtain ⟨l, hl⟩ := h.even hhalf
  rcases eq_or_eq_neg_of_abs_eq hone with hstep | hstep
  · refine ⟨l, ?_⟩
    have hj : j = w - 1 := by omega
    rw [hj, hl]
    push_cast
    ring
  · refine ⟨-l, ?_⟩
    have hj : j = w + 1 := by omega
    rw [hj, hl]
    push_cast
    ring

end IsGridNearest

/-! ## Numbers and grids -/

/-- A short count lies on a grid of a power of two, unless it is smaller than 2^52 steps of the grid. -/
theorem IsShort.on_grid {y : ℚ} (h : IsShort y) (k : ℕ) :
    (∃ j : ℤ, y = j * 2 ^ k) ∨ (k ≠ 0 ∧ |y| < 2 ^ (k + 52)) := by
  obtain ⟨m, e, hm, rfl⟩ := h
  rcases Nat.lt_or_ge e k with hlt | hge
  · right
    refine ⟨Nat.ne_zero_of_lt hlt, ?_⟩
    have hm' : |(m : ℚ)| < 2 ^ 53 := by
      rw [← Int.cast_abs]
      exact_mod_cast hm
    have hpos : (0 : ℚ) < 2 ^ e := by positivity
    rw [abs_mul, abs_of_pos hpos]
    calc |(m : ℚ)| * 2 ^ e < 2 ^ 53 * 2 ^ e := mul_lt_mul_of_pos_right hm' hpos
      _ = 2 ^ (e + 53) := by rw [← pow_add, add_comm]
      _ ≤ 2 ^ (k + 52) := pow_le_pow_right₀ one_le_two (by omega)
  · left
    obtain ⟨d, rfl⟩ := Nat.exists_eq_add_of_le hge
    refine ⟨m * 2 ^ d, ?_⟩
    push_cast
    rw [pow_add]
    ring

theorem isShort_of_le {w : ℤ} (h : |w| ≤ 2 ^ 53) (k : ℕ) : IsShort (w * 2 ^ k) := by
  rcases h.lt_or_eq with hlt | heq
  · exact ⟨w, k, hlt, rfl⟩
  · -- one digit too many, but the last one is a zero
    rcases eq_or_eq_neg_of_abs_eq heq with rfl | rfl
    · refine ⟨2 ^ 52, k + 1, by norm_num, ?_⟩
      push_cast
      rw [pow_succ]
      ring
    · refine ⟨-2 ^ 52, k + 1, by norm_num, ?_⟩
      push_cast
      rw [pow_succ]
      ring

/-- On the grid that keeps 53 digits of `u`, the nearest multiple is the nearest short count. -/
theorem IsGridNearest.isNearest {k : ℕ} (h : IsGridNearest u (2 ^ k) w) (hu : 0 ≤ u)
    (hhigh : u < 2 ^ (k + 53)) (hlow : k = 0 ∨ 2 ^ (k + 52) ≤ u) : IsNearest u (w * 2 ^ k) := by
  have hgrid : (0 : ℚ) < 2 ^ k := by positivity
  have hsize : |w| ≤ 2 ^ 53 := by
    obtain ⟨hdown, hup⟩ := abs_le.1 h.half
    rw [pow_add] at hhigh
    have hle : (w : ℚ) * 2 ^ k < (2 ^ 53 + 1 : ℤ) * 2 ^ k := by
      push_cast
      linarith
    have hge : (-1 : ℤ) * (2 : ℚ) ^ k < w * 2 ^ k := by
      push_cast
      linarith
    have hle' : w < 2 ^ 53 + 1 := by exact_mod_cast lt_of_mul_lt_mul_right hle hgrid.le
    have hge' : -1 < w := by exact_mod_cast lt_of_mul_lt_mul_right hge hgrid.le
    rw [abs_le]
    constructor <;> omega
  -- what is off the grid is smaller than 2^52 steps, a multiple that is no larger than `u`
  have hoff : ∀ y, k ≠ 0 → |y| < 2 ^ (k + 52) → |u - w * 2 ^ k| < |u - y| := by
    intro y hk hy
    have hle : (2 : ℚ) ^ (k + 52) ≤ u := hlow.resolve_left hk
    have hmultiple : ((2 ^ 52 : ℤ) : ℚ) * 2 ^ k = 2 ^ (k + 52) := by
      push_cast
      rw [pow_add]
      ring
    have hnear := h.near hgrid (2 ^ 52)
    rw [hmultiple, abs_of_nonneg (sub_nonneg.2 hle)] at hnear
    have hdist := le_abs_self (u - y)
    have hy' := le_abs_self y
    linarith
  refine ⟨isShort_of_le hsize k, ?_, ?_⟩
  · intro y hy
    rcases hy.on_grid k with ⟨j, rfl⟩ | ⟨hk, hsmall⟩
    · exact h.near hgrid j
    · exact (hoff y hk hsmall).le
  · intro y hy hne htie
    rcases hy.on_grid k with ⟨j, rfl⟩ | ⟨hk, hsmall⟩
    · exact h.even_of_tie hgrid (fun hj => hne (by rw [hj])) htie
    · exact absurd htie (hoff y hk hsmall).ne'

end

/-- A multiple of a power of two is rounded to a multiple of it: up to 2^53 times the power nothing is
    rounded, and above it the numbers are all multiples. -/
theorem IsNearest.exists_multiple {k : ℕ} {i : ℤ} {u : ℚ} (h : IsNearest (i * 2 ^ k) u) :
    ∃ j : ℤ, u = j * 2 ^ k := by
  have hpos : (0 : ℚ) < 2 ^ k := by positivity
  rcases h.short.on_grid k with hmultiple | ⟨-, hsmall⟩
  · exact hmultiple
  · have hfew : |i| ≤ 2 ^ 53 := by
      by_contra hmany
      rw [not_le, lt_abs] at hmany
      rw [add_comm, pow_add, abs_lt] at hsmall
      have hlarge : IsNearest ((2 ^ 53 : ℤ) * 2 ^ k) ((2 ^ 53 : ℤ) * 2 ^ k) :=
        (isShort_of_le (by norm_num) k).isNearest
      rcases hmany with habove | hbelow
      · have hscaled : ((2 ^ 53 : ℤ) : ℚ) * 2 ^ k ≤ i * 2 ^ k :=
          mul_le_mul_of_nonneg_right (Int.cast_le.2 habove.le) hpos.le
        have hu := hlarge.mono h hscaled
        push_cast at hu
        linarith
      · have hscaled : ((2 ^ 53 : ℤ) : ℚ) * 2 ^ k ≤ -(i * 2 ^ k) := by
          rw [← neg_mul, ← Int.cast_neg]
          exact mul_le_mul_of_nonneg_right (Int.cast_le.2 hbelow.le) hpos.le
        have hu := hlarge.mono h.neg hscaled
        push_cast at hu
        linarith
    exact ⟨i, h.unique (isShort_of_le hfew k).isNearest⟩

/-! ## Rounding a quotient -/

theorem spacing_spec (n : Nat) : ∃ k, spacing n = 2 ^ k ∧ n + 1 ≤ 2 ^ (k + 53) ∧
    (k = 0 ∨ 2 ^ (k + 52) ≤ n) := by
  refine ⟨n.log2 - 52, rfl, ?_, ?_⟩
  · have hlog : n < 2 ^ (n.log2 + 1) := Nat.lt_log2_self
    exact hlog.trans_le (Nat.pow_le_pow_right (by decide) (by omega))
  · rcases Nat.eq_zero_or_pos (n.log2 - 52) with hzero | hpos
    · exact .inl hzero
    · right
      have hne : n ≠ 0 := by
        intro hzero
        rw [hzero, Nat.log2_zero] at hpos
        omega
      rw [Nat.sub_add_cancel (by omega)]
      exact Nat.log2_self_le hne

/-- The units of a quotient are the short count nearest to it. -/
theorem isNearest_unitsOfRatio (num : Nat) {den : Nat} (hden : 0 < den) :
    IsNearest ((num * unit : ℕ) / den) (unitsOfRatio num den) := by
  rw [unitsOfRatio]
  generalize num * unit = a
  obtain ⟨k, hspacing, hnext, hkept⟩ := spacing_spec (a / den)
  rw [hspacing]
  have hd : (0 : ℚ) < den := Nat.cast_pos.2 hden
  have hhigh : (a / den : ℚ) < 2 ^ (k + 53) := by
    have hfloor : a < (a / den + 1) * den := Nat.lt_mul_of_div_lt (Nat.lt_succ_self _) hden
    rw [div_lt_iff₀ hd]
    exact_mod_cast hfloor.trans_le (Nat.mul_le_mul_right den hnext)
  have hlow : k = 0 ∨ (2 : ℚ) ^ (k + 52) ≤ a / den := by
    refine hkept.imp_right fun hle => ?_
    have hfloor : a / den * den ≤ a := Nat.div_mul_le_self a den
    rw [le_div_iff₀ hd]
    exact_mod_cast (Nat.mul_le_mul_right den hle).trans hfloor
  have hgrid := roundHalfEven_isGridNearest a hden (Nat.two_pow_pos k)
  rw [Nat.cast_pow, Nat.cast_ofNat] at hgrid
  have hnearest := hgrid.isNearest (div_nonneg a.cast_nonneg hd.le) hhigh hlow
  exact_mod_cast hnearest

end Binary64
end ConfigLint
